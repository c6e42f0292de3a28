import MessageTemplate.Proofs.Service.Results
import MessageTemplate.Proofs.Selection.Choice
import MessageTemplate.Proofs.Template.Names
/-! Variants rendered with the base template's values, bound by name. -/
namespace MessageTemplate

namespace Service

open Template

/-! ### Values bound by name -/

/-- The entries values are bound by: each name of a list with the value at its number, for the
numbers that have one. -/
def namedValues (names : List String) (values : List Value) : List (String × Value) :=
  names.zipIdx.filterMap fun q => values[q.2]?.map (q.1, ·)

/-- The value bound to a name: that of its last entry, or no value. -/
def namedValue (names : List String) (values : List Value) (n : String) : Value :=
  (((namedValues names values).reverse.find? (·.1 = n)).map (·.2)).getD .null

section Rebind
variable {fromNames toNames : List String} {values : List Value}

theorem rebind_eq_map_namedValue :
    rebind fromNames toNames values = toNames.map (namedValue fromNames values) := rfl

theorem mem_namedValues {x : String × Value} :
    x ∈ namedValues fromNames values ↔
      ∃ i : Nat, fromNames[i]? = some x.1 ∧ values[i]? = some x.2 := by
  simp only [namedValues, List.mem_filterMap, List.mem_zipIdx_iff_getElem?,
    Option.map_eq_some_iff]
  constructor
  · rintro ⟨⟨n, i⟩, hn, v, hv, rfl⟩
    exact ⟨i, hn, hv⟩
  · rintro ⟨i, hn, hv⟩
    exact ⟨(x.1, i), hn, x.2, hv, rfl⟩

theorem getElem?_of_mem_namedValues (hnd : fromNames.Nodup) {k : Nat} {x : String × Value}
    (hk : fromNames[k]? = some x.1) (hx : x ∈ namedValues fromNames values) :
    values[k]? = some x.2 := by
  obtain ⟨i, hi, hv⟩ := mem_namedValues.mp hx
  have hlt : i < fromNames.length := (List.getElem?_eq_some_iff.mp hi).1
  rw [← (List.getElem?_inj hlt hnd).mp (hi.trans hk.symm)]
  exact hv

/-- A name at number `k` of a list of distinct names is bound to the value at `k`, or to no
value when there is none. -/
theorem namedValue_of_getElem? (hnd : fromNames.Nodup) {k : Nat} {n : String}
    (hk : fromNames[k]? = some n) : namedValue fromNames values n = values.getD k .null := by
  rw [namedValue, List.getD_eq_getElem?_getD]
  cases hf : (namedValues fromNames values).reverse.find? (·.1 = n) with
  | none =>
    -- no entry under `n`, so no value at its number
    cases hv : values[k]? with
    | none => rfl
    | some v =>
      rw [List.find?_eq_none] at hf
      exact absurd (by simp)
        (hf (n, v) (List.mem_reverse.mpr (mem_namedValues.mpr ⟨k, hk, hv⟩)))
  | some x =>
    have hxn : x.1 = n := by simpa using List.find?_some hf
    have hv := getElem?_of_mem_namedValues hnd (hxn ▸ hk)
      (List.mem_reverse.mp (List.mem_of_find?_eq_some hf))
    simp [hv]

theorem namedValue_of_not_mem {n : String} (hn : n ∉ fromNames) :
    namedValue fromNames values n = .null := by
  have hnone : (namedValues fromNames values).reverse.find? (·.1 = n) = none := by
    rw [List.find?_eq_none]
    intro x hx hxn
    obtain ⟨i, hi, -⟩ := mem_namedValues.mp (List.mem_reverse.mp hx)
    rw [decide_eq_true_eq] at hxn
    exact hn (hxn ▸ List.mem_of_getElem? hi)
  rw [namedValue, hnone]
  rfl

theorem length_rebind : (rebind fromNames toNames values).length = toNames.length := by
  simp [rebind_eq_map_namedValue]

theorem getElem?_rebind_of_getElem? (hnd : fromNames.Nodup) {j k : Nat} {n : String}
    (hj : toNames[j]? = some n) (hk : fromNames[k]? = some n) :
    (rebind fromNames toNames values)[j]? = some (values.getD k .null) := by
  rw [rebind_eq_map_namedValue, List.getElem?_map, hj, Option.map_some,
    namedValue_of_getElem? hnd hk]

theorem getElem?_rebind_of_not_mem {j : Nat} {n : String} (hj : toNames[j]? = some n)
    (hn : n ∉ fromNames) : (rebind fromNames toNames values)[j]? = some .null := by
  rw [rebind_eq_map_namedValue, List.getElem?_map, hj, Option.map_some,
    namedValue_of_not_mem hn]

end Rebind

theorem pairs_of_length {t : Template} {values : List Value}
    (h : values.length = t.names.length) :
    t.pairs values =
      List.zipWith Pair.mk t.names values ++ [⟨originalFormatKey, .str t.original⟩] := by
  simp only [Template.pairs]
  congr 1
  apply List.ext_getElem
  · simp [h]
  · intro i h₁ h₂
    have hi : i < values.length := by
      simp only [List.length_zipWith] at h₂
      omega
    simp [List.getD_eq_getElem?_getD, List.getElem?_eq_getElem hi]

theorem render_of_render_append {raw : String} {values more : List Value} {out : String}
    (hlen : (compile raw).names.length ≤ values.length)
    (h : (compile raw).render (values ++ more) = .ok out) : (compile raw).render values = .ok out :=
  render_congr h fun i hn _ => (List.getElem?_append_left (by omega)).symm

/-! ### Rendering a chosen variant -/

theorem process_named {E : Engines} {p : Processor} {R : Request}
    (hcheck : checkRequest E p.options R = .ok ()) (hl : R.language.isEmpty ∨ R.language = "named") :
    (p.process E (some R)).1 = (renderNamed E p.options p.cache R).1 := by
  have hnamed : (R.language.isEmpty || decide (R.language = "named")) = true := by
    rcases hl with hl | hl <;> simp [hl]
  simp only [Processor.process, hcheck, hnamed, if_true]

/-- With a sound cache, a chosen variant is rendered with the values rebound to its names. -/
theorem renderNamed_variant {E : Engines} {o : Options} {c : Cache} {R : Request}
    {sel : Selection} (hc : c.Sound)
    (hsel : select o.conditionsEnabled
      (some ⟨R.template, (compile R.template).names, R.values, R.variants⟩) E.evaluate = .ok sel)
    (hvariant : 0 ≤ sel.variant) :
    (renderNamed E o c R).1 =
      (((compile sel.template).render
          (rebind (compile R.template).names (compile sel.template).names R.values)).map
        fun out => ⟨R.requestId, out, sel.template, (compile sel.template).names,
          (compile sel.template).pairs
            (rebind (compile R.template).names (compile sel.template).names R.values),
          .named, sel.variant, sel.path, sel.reasoning⟩).mapError
        fun e => "render failed: " ++ e.message := by
  unfold renderNamed
  -- both lookups give compiled templates: the base one, then the chosen one
  obtain ⟨base, c1, hget, hb, hc1⟩ := hc.get R.template
  rw [hget]
  dsimp only
  rw [hb, hsel]
  obtain ⟨chosen, c2, hget2, hch, -⟩ := hc1.get sel.template
  dsimp only
  rw [hget2]
  dsimp only
  rw [hch, if_pos hvariant]
  simp only [Bound.render, Bound.pairs]
  cases (compile sel.template).render
      (rebind (compile R.template).names (compile sel.template).names R.values) <;> rfl

/-- Whatever engines it calls, a chosen variant is rendered with the request's values rebound by
name. Its values are one for each of its names: a name the base template has takes the value at
that name's number in the base template, or no value past the values given; any other name takes
no value. The request is answered by rendering the variant with them, each name paired with its
value, and no further value would change that rendering, even where the base template itself
lacks values for its names. -/
theorem process_variant_rebinds {E : Engines} {p : Processor} (hp : p.Reachable E) {R : Request}
    {sel : Selection} (hcheck : checkRequest E p.options R = .ok ())
    (hnamed : R.language.isEmpty ∨ R.language = "named")
    (hsel : select p.options.conditionsEnabled
      (some ⟨R.template, (compile R.template).names, R.values, R.variants⟩) E.evaluate = .ok sel)
    (hvariant : 0 ≤ sel.variant) :
    let v := rebind (compile R.template).names (compile sel.template).names R.values
    v.length = (compile sel.template).names.length ∧
      (∀ (j k : Nat) (n : String), (compile sel.template).names[j]? = some n →
        (compile R.template).names[k]? = some n → v[j]? = some (R.values.getD k .null)) ∧
      (∀ (j : Nat) (n : String), (compile sel.template).names[j]? = some n →
        n ∉ (compile R.template).names → v[j]? = some .null) ∧
      (p.process E (some R)).1 =
        (((compile sel.template).render v).map
          fun out => ⟨R.requestId, out, sel.template, (compile sel.template).names,
            List.zipWith Pair.mk (compile sel.template).names v ++
              [⟨originalFormatKey, .str sel.template⟩],
            .named, sel.variant, sel.path, sel.reasoning⟩).mapError
          (fun e => "render failed: " ++ e.message) ∧
      ∀ more out, (compile sel.template).render (v ++ more) = .ok out →
        (compile sel.template).render v = .ok out := by
  intro v
  have hlen : v.length = (compile sel.template).names.length := length_rebind
  refine ⟨hlen, fun j k n hj hk => getElem?_rebind_of_getElem? (nodup_compile_names _) hj hk,
    fun j n hj hn => getElem?_rebind_of_not_mem hj hn, ?_,
    fun more out h => render_of_render_append hlen.ge h⟩
  rw [process_named hcheck hnamed, renderNamed_variant hp.sound hsel hvariant,
    pairs_of_length hlen]
  rfl

/-- A variant identical to its base template, chosen by the condition `true`, with one value
for two names: the base template cannot render with the request's values, and the variant
renders with the second name bound to no value. -/
theorem process_variant_rebinds_missing_value :
    Processor.Reachable Engines.builtin ⟨{}, Cache.empty⟩ ∧
      checkRequest Engines.builtin {}
          { requestId := "r1", template := "\x7bA\x7d \x7bB\x7d", values := [.str "x"],
            variants := [⟨"true", "\x7bA\x7d \x7bB\x7d"⟩] } = .ok () ∧
      select true (some ⟨"\x7bA\x7d \x7bB\x7d", (compile "\x7bA\x7d \x7bB\x7d").names,
        [.str "x"], [⟨"true", "\x7bA\x7d \x7bB\x7d"⟩]⟩) Engines.builtin.evaluate =
        .ok ⟨"\x7bA\x7d \x7bB\x7d", 0, "matched variant 0: true", .variant⟩ ∧
      ((compile "\x7bA\x7d \x7bB\x7d").render [.str "x"]).toBool = false ∧
      (Processor.process Engines.builtin ⟨{}, Cache.empty⟩
          (some { requestId := "r1", template := "\x7bA\x7d \x7bB\x7d", values := [.str "x"],
                  variants := [⟨"true", "\x7bA\x7d \x7bB\x7d"⟩] })).1 =
        .ok ⟨"r1", "x (null)", "\x7bA\x7d \x7bB\x7d", ["A", "B"],
          [⟨"A", .str "x"⟩, ⟨"B", .null⟩,
            ⟨originalFormatKey, .str "\x7bA\x7d \x7bB\x7d"⟩],
          .named, 0, .variant, "matched variant 0: true"⟩ := by
  -- the condition `true` passes the check and holds under the request's variables
  have hvalid : Condition.validate "true" = .ok () := by
    have h : (Condition.validate "true").toBool = true := by
      unfold Condition.validate Condition.compile Condition.parseTokens Condition.readTokens
        Condition.readTree Condition.check Condition.typeOf
      decide +kernel
    cases hv : Condition.validate "true" with
    | error e =>
      rw [hv] at h
      cases h
    | ok u => rfl
  have htrue : Condition.evaluate "true" (conditionVars ⟨"\x7bA\x7d \x7bB\x7d",
      (compile "\x7bA\x7d \x7bB\x7d").names, [.str "x"], [⟨"true", "\x7bA\x7d \x7bB\x7d"⟩]⟩) =
      .ok (.bool true) := by
    refine (evaluateBool_eq_ok_true "true").mp ?_
    unfold Condition.evaluateBool Condition.evaluate Condition.compile Condition.parseTokens
      Condition.readTokens Condition.readTree Condition.check Condition.typeOf Condition.eval
    decide +kernel
  have hb : byteLength "\x7bA\x7d \x7bB\x7d" = 7 := by decide +kernel
  have hcheck : checkRequest Engines.builtin {}
      { requestId := "r1", template := "\x7bA\x7d \x7bB\x7d", values := [.str "x"],
        variants := [⟨"true", "\x7bA\x7d \x7bB\x7d"⟩] } = .ok () := by
    simp [checkRequest, checkVariant, Engines.builtin, hb, hvalid]
  have hsel : select true (some ⟨"\x7bA\x7d \x7bB\x7d", (compile "\x7bA\x7d \x7bB\x7d").names,
      [.str "x"], [⟨"true", "\x7bA\x7d \x7bB\x7d"⟩]⟩) Engines.builtin.evaluate =
      .ok ⟨"\x7bA\x7d \x7bB\x7d", 0, "matched variant 0: true", .variant⟩ :=
    (@select_variant Condition.evaluate
      ⟨"\x7bA\x7d \x7bB\x7d", (compile "\x7bA\x7d \x7bB\x7d").names, [.str "x"],
        [⟨"true", "\x7bA\x7d \x7bB\x7d"⟩]⟩ (by simp) 0 ⟨"true", "\x7bA\x7d \x7bB\x7d"⟩ rfl
      htrue (by simp)).trans rfl
  have hc : compile "\x7bA\x7d \x7bB\x7d" =
      ⟨"\x7bA\x7d \x7bB\x7d", "\x7b0\x7d \x7b1\x7d", ["A", "B"]⟩ := by
    decide +kernel
  have hr : (compile "\x7bA\x7d \x7bB\x7d").render
      (rebind (compile "\x7bA\x7d \x7bB\x7d").names (compile "\x7bA\x7d \x7bB\x7d").names
        [.str "x"]) = .ok "x (null)" := by
    decide +kernel
  have hbase : ((compile "\x7bA\x7d \x7bB\x7d").render [.str "x"]).toBool = false := by
    rw [hc]
    decide +kernel
  refine ⟨.fresh {}, hcheck, hsel, hbase, ?_⟩
  have hrun :=
    (process_variant_rebinds (.fresh {}) hcheck (.inl rfl) hsel (by decide)).2.2.2.1
  rw [hrun, hr, hc]
  rfl

end Service

end MessageTemplate
