import MessageTemplate.Service.Processor
import MessageTemplate.Proofs.Template.Render
/-! What a processor publishes agrees with itself and with the request it answers. -/
namespace MessageTemplate

namespace Cache

@[simp] theorem find?_empty (x : String) : empty.find? x = none := rfl

@[simp] theorem find?_clear (c : Cache) (x : String) : c.clear.find? x = none := rfl

/-- A lookup that finds its text stored changes nothing. -/
theorem get_of_find? {c : Cache} {raw : String} {e : CacheEntry} (h : c.find? raw = some e) :
    c.get raw = (e, c) := by
  simp [get, h]

/-- A lookup that does not find its text compiles it, stores it last under the next stamp and
moves the next stamp on. -/
theorem get_of_find?_none {c : Cache} {raw : String} (h : c.find? raw = none) :
    c.get raw = (⟨Template.compile raw, c.nextStamp⟩,
      ⟨c.entries ++ [(raw, ⟨Template.compile raw, c.nextStamp⟩)], c.nextStamp + 1⟩) := by
  simp [get, h]

/-- After a lookup, its text is stored with the template it answered. -/
theorem find?_get_self (c : Cache) (raw : String) : (c.get raw).2.find? raw = (c.get raw).1 := by
  cases hf : c.find? raw with
  | some e =>
    rw [get_of_find? hf]
    exact hf
  | none =>
    have hl : c.entries.lookup raw = none := hf
    simp [get_of_find?_none hf, find?, List.lookup_append, hl]

/-- What a cache finds after a lookup: what it found before, or, under the looked-up text when
that was not stored, the template the lookup compiled. -/
theorem find?_get_cases {c : Cache} {raw x : String} {e : CacheEntry}
    (h : (c.get raw).2.find? x = some e) :
    c.find? x = some e ∨
      c.find? raw = none ∧ x = raw ∧ e = ⟨Template.compile raw, c.nextStamp⟩ := by
  cases hf : c.find? raw with
  | some e' =>
    rw [get_of_find? hf] at h
    exact .inl h
  | none =>
    rw [get_of_find?_none hf] at h
    simp only [find?, List.lookup_append] at h
    -- an old entry is found first; the new one only under its own text
    cases hx : c.entries.lookup x with
    | some e'' =>
      rw [hx, Option.some_or] at h
      exact .inl (hx.trans h)
    | none =>
      rw [hx, Option.none_or, List.lookup_cons, List.lookup_nil] at h
      cases hr : x == raw
      · rw [hr] at h
        cases h
      · rw [hr] at h
        cases h
        exact .inr ⟨rfl, beq_iff_eq.mp hr, rfl⟩

/-- Every entry of the cache holds the compilation of the text it is stored under. -/
def Sound (c : Cache) : Prop :=
  ∀ raw e, c.find? raw = some e → e.template = Template.compile raw

theorem sound_empty : empty.Sound := by
  intro raw e h
  simp at h

/-- A sound cache gives the compilation of a text, and stays sound. -/
theorem Sound.get {c : Cache} (hc : c.Sound) (raw : String) :
    ∃ e c', c.get raw = (e, c') ∧ e.template = Template.compile raw ∧ c'.Sound := by
  have hc' : (c.get raw).2.Sound := by
    intro x e h
    rcases find?_get_cases h with hold | ⟨-, rfl, rfl⟩
    · exact hc x e hold
    · rfl
  -- the answer is stored after the lookup, so the new cache vouches for it
  exact ⟨_, _, rfl, hc' raw _ (find?_get_self c raw), hc'⟩

end Cache

section Selection

theorem firstMatch_spec {value : String → Condition.Activation → Except String Condition.CelVal}
    {vars : Condition.Activation} {vs : List Variant} {i : Nat} {v : Variant} {j : Nat}
    (h : firstMatch value vars vs i = some (v, j)) :
    ∃ k, ∃ hk : k < vs.length, j = i + k ∧ v = vs[k] := by
  induction vs generalizing i with
  | nil => cases h
  | cons w ws ih =>
    simp only [firstMatch] at h
    split at h
    · cases h
      exact ⟨0, by simp, rfl, rfl⟩
    · obtain ⟨k, hk, rfl, rfl⟩ := ih h
      exact ⟨k + 1, by simpa using hk, by omega, rfl⟩

/-- A choice is the base template with index -1 off the variant path, or a variant's template
with its index on it. -/
theorem select_ok {enabled : Bool} {input : SelectInput}
    {value : String → Condition.Activation → Except String Condition.CelVal} {sel : Selection}
    (h : select enabled (some input) value = .ok sel) :
    (sel.variant = -1 ∧ sel.path ≠ .variant ∧ sel.template = input.template) ∨
      ∃ (k : Nat) (hk : k < input.variants.length), sel.variant = k ∧ sel.path = .variant ∧
        sel.template = input.variants[k].template := by
  unfold select at h
  dsimp only at h
  split at h
  · cases h
  · split at h
    · cases h
      exact .inl ⟨rfl, nofun, rfl⟩
    · split at h
      · cases h
        exact .inl ⟨rfl, nofun, rfl⟩
      · split at h
        · next v i hm =>
          cases h
          obtain ⟨k, hk, rfl, rfl⟩ := firstMatch_spec hm
          exact .inr ⟨k, hk, by simp, rfl, rfl⟩
        · cases h
          exact .inl ⟨rfl, nofun, rfl⟩

theorem select_chosen {enabled : Bool} {input : SelectInput}
    {value : String → Condition.Activation → Except String Condition.CelVal} {sel : Selection}
    (h : select enabled (some input) value = .ok sel) :
    (sel.variant = -1 ↔ sel.path ≠ .variant) ∧
      (sel.variant = -1 ∧ sel.template = input.template ∨
        ∃ (k : Nat) (hk : k < input.variants.length), sel.variant = k ∧
          sel.template = input.variants[k].template) := by
  rcases select_ok h with ⟨hv, hp, ht⟩ | ⟨k, hk, hv, hp, ht⟩
  · exact ⟨by simp [hv, hp], .inl ⟨hv, ht⟩⟩
  · exact ⟨by simp [hv, hp], .inr ⟨k, hk, hv, ht⟩⟩

end Selection

namespace Template

theorem getElem?_pairValues (t : Template) (values : List Value) {i : Nat}
    (hi : i < t.names.length) :
    ((t.pairs values).dropLast.map Pair.value)[i]? = some (values.getD i .null) := by
  simp [Template.pairs, hi]

theorem render_pairValues {raw : String} {values : List Value} {out : String}
    (h : (compile raw).render values = .ok out) :
    (compile raw).render (((compile raw).pairs values).dropLast.map Pair.value) = .ok out := by
  refine render_congr h fun i hn hl => ?_
  rw [getElem?_pairValues _ _ hn]
  simp [hl]

end Template

namespace Service

open Template

/-! ### Processors a worker can hold -/

theorem renderNamed_sound {E : Engines} {o : Options} {c : Cache} (hc : c.Sound) (R : Request) :
    (renderNamed E o c R).2.Sound := by
  unfold renderNamed
  obtain ⟨base, c1, hget, -, hc1⟩ := hc.get R.template
  rw [hget]
  dsimp only
  split
  · exact hc1
  · next sel _ =>
    obtain ⟨chosen, c2, hget2, -, hc2⟩ := hc1.get sel.template
    rw [hget2]
    dsimp only
    split <;> exact hc2

/-- Processing a request keeps the compiled templates sound. -/
theorem process_sound {E : Engines} {p : Processor} (hp : p.cache.Sound) (req : Option Request) :
    (p.process E req).2.cache.Sound := by
  unfold Processor.process
  split
  · exact hp
  · split
    · exact hp
    · split
      · exact renderNamed_sound hp _
      · split <;> exact hp

/-- The processors a worker calling the engines `E` can hold: a new one, with no compiled
templates, and whatever processing a request leaves behind. -/
inductive Processor.Reachable (E : Engines) : Processor → Prop
  | fresh (o : Options) : Reachable E ⟨o, Cache.empty⟩
  | process {p : Processor} (req : Option Request) : Reachable E p →
      Reachable E (p.process E req).2

theorem Processor.Reachable.sound {E : Engines} {p : Processor} (h : p.Reachable E) :
    p.cache.Sound := by
  induction h with
  | fresh o => exact Cache.sound_empty
  | process req _ ih => exact process_sound ih req

/-! ### What a rendering is made of -/

/-- A named rendering, with a sound cache: the chosen template compiled and rendered with
values. -/
theorem renderNamed_ok {E : Engines} {o : Options} {c : Cache} {R : Request} {r : Rendered}
    (hc : c.Sound) (h : (renderNamed E o c R).1 = .ok r) :
    ∃ sel values output,
      select o.conditionsEnabled
        (some ⟨R.template, (compile R.template).names, R.values, R.variants⟩) E.evaluate = .ok sel ∧
      (compile sel.template).render values = .ok output ∧
      r = ⟨R.requestId, output, sel.template, (compile sel.template).names,
        (compile sel.template).pairs values, .named, sel.variant, sel.path, sel.reasoning⟩ := by
  unfold renderNamed at h
  -- both lookups give compiled templates: the base one, then the chosen one
  obtain ⟨base, c1, hget, hb, hc1⟩ := hc.get R.template
  rw [hget] at h
  dsimp only at h
  rw [hb] at h
  split at h
  · cases h
  · next sel hsel =>
    obtain ⟨chosen, c2, hget2, hch, -⟩ := hc1.get sel.template
    rw [hget2] at h
    dsimp only at h
    rw [hch] at h
    split at h
    · cases h
    · next output hr =>
      cases h
      exact ⟨sel, _, output, hsel, hr, rfl⟩

/-- A handlebars rendering: the chosen template rendered with the data of the request's names
and values, and what it publishes. -/
theorem renderHandlebars_eq_ok {E : Engines} {o : Options} {R : Request} {r : Rendered}
    (h : renderHandlebars E o R = .ok r) :
    ∃ sel output,
      select o.conditionsEnabled (some ⟨R.template, R.names, R.values, R.variants⟩) E.evaluate =
        .ok sel ∧
      E.render sel.template (handlebarsData R.names R.values sel.template) = .ok output ∧
      r = ⟨R.requestId, output, sel.template, R.names,
        (R.names.zipIdx.map fun (n, i) => (⟨n, R.values.getD i .null⟩ : Pair)) ++
          [⟨originalFormatKey, .str sel.template⟩], .handlebars, sel.variant, sel.path,
        sel.reasoning⟩ := by
  unfold renderHandlebars at h
  simp only [bind, Except.bind, pure, Except.pure, throw, throwThe, MonadExceptOf.throw] at h
  split at h
  · cases h
  split at h
  · cases h
  split at h
  · cases h
  · rename_i sel hsel
    split at h
    · cases h
    · rename_i output hout
      cases h
      exact ⟨sel, output, hsel, hout, rfl⟩

/-- A rendering is named when the language is empty or named, and handlebars otherwise. -/
theorem process_ok {E : Engines} {p : Processor} {R : Request} {r : Rendered}
    (h : (p.process E (some R)).1 = .ok r) :
    (R.language.isEmpty ∨ R.language = "named") ∧ (renderNamed E p.options p.cache R).1 = .ok r ∨
      R.language = "handlebars" ∧ renderHandlebars E p.options R = .ok r := by
  unfold Processor.process at h
  dsimp only at h
  split at h
  · cases h
  · split at h
    · next hl =>
      simp only [Bool.or_eq_true, decide_eq_true_eq] at hl
      exact .inl ⟨hl, h⟩
    · split at h
      · next hl => exact .inr ⟨hl, h⟩
      · cases h

/-! ### Consistency -/

/-- What a rendering promises about itself and the request it answers. -/
structure Rendered.Consistent (R : Request) (r : Rendered) : Prop where
  requestId : r.requestId = R.requestId
  language : r.language.name = if R.language.isEmpty then "named" else R.language
  length_pairs : r.pairs.length = r.valueNames.length + 1
  pair_names : r.pairs.dropLast.map Pair.name = r.valueNames
  last_pair : r.pairs.getLast? = some ⟨originalFormatKey, .str r.originalFormat⟩
  variant_iff : r.variant = -1 ↔ r.path ≠ .variant
  chosen : r.variant = -1 ∧ r.originalFormat = R.template ∨
    ∃ (i : Nat) (hi : i < R.variants.length), r.variant = i ∧
      r.originalFormat = R.variants[i].template
  named : r.language = .named →
    r.valueNames = (compile r.originalFormat).names ∧
      (compile r.originalFormat).render (r.pairs.dropLast.map Pair.value) = .ok r.output

theorem consistent_named {enabled : Bool} {R : Request} {names : List String}
    {value : String → Condition.Activation → Except String Condition.CelVal} {sel : Selection}
    {values : List Value} {output : String}
    (hsel : select enabled (some ⟨R.template, names, R.values, R.variants⟩) value = .ok sel)
    (hl : R.language.isEmpty ∨ R.language = "named")
    (hr : (compile sel.template).render values = .ok output) :
    Rendered.Consistent R ⟨R.requestId, output, sel.template, (compile sel.template).names,
      (compile sel.template).pairs values, .named, sel.variant, sel.path, sel.reasoning⟩ where
  requestId := rfl
  language := by rcases hl with hl | hl <;> simp [hl, Language.name]
  length_pairs := by simp [Template.pairs]
  pair_names := by
    simp only [Template.pairs, List.dropLast_concat, List.map_map]
    exact List.zipIdx_map_fst 0 _
  last_pair := by simp [Template.pairs]; rfl
  variant_iff := (select_chosen hsel).1
  chosen := (select_chosen hsel).2
  named _ := ⟨rfl, render_pairValues hr⟩

theorem consistent_handlebars {enabled : Bool} {R : Request}
    {value : String → Condition.Activation → Except String Condition.CelVal} {sel : Selection}
    {output : String}
    (hsel : select enabled (some ⟨R.template, R.names, R.values, R.variants⟩) value = .ok sel)
    (hl : R.language = "handlebars") :
    Rendered.Consistent R ⟨R.requestId, output, sel.template, R.names,
      (R.names.zipIdx.map fun (n, i) => (⟨n, R.values.getD i .null⟩ : Pair)) ++
        [⟨originalFormatKey, .str sel.template⟩], .handlebars, sel.variant, sel.path,
      sel.reasoning⟩ where
  requestId := rfl
  language := by simp [hl, Language.name]
  length_pairs := by simp
  pair_names := by
    simp only [List.dropLast_concat, List.map_map]
    exact List.zipIdx_map_fst 0 _
  last_pair := by simp
  variant_iff := (select_chosen hsel).1
  chosen := (select_chosen hsel).2
  named h := nomatch h

/-- Whatever engines it calls, every rendering a processor a worker can hold publishes is
consistent with itself and its request, in either language: the compiled templates it keeps are
those of their texts. -/
theorem process_consistent {E : Engines} {p : Processor} (hp : p.Reachable E) (R : Request)
    (r : Rendered) (h : (p.process E (some R)).1 = .ok r) : r.Consistent R := by
  rcases process_ok h with ⟨hl, hn⟩ | ⟨hl, hh⟩
  · obtain ⟨sel, values, output, hsel, hr, rfl⟩ := renderNamed_ok hp.sound hn
    exact consistent_named hsel hl hr
  · obtain ⟨sel, output, hsel, -, rfl⟩ := renderHandlebars_eq_ok hh
    exact consistent_handlebars hsel hl

theorem process_consistent_greeting :
    Processor.Reachable Engines.builtin ⟨{}, Cache.empty⟩ ∧
      (Processor.process Engines.builtin ⟨{}, Cache.empty⟩
        (some { requestId := "r1", template := "Hi \x7bName\x7d", values := [.str "Ann"] })).1 =
        .ok ⟨"r1", "Hi Ann", "Hi \x7bName\x7d", ["Name"],
          [⟨"Name", .str "Ann"⟩, ⟨originalFormatKey, .str "Hi \x7bName\x7d"⟩], .named, -1, .base,
          "no variants configured"⟩ ∧
      Rendered.Consistent
        { requestId := "r1", template := "Hi \x7bName\x7d", values := [.str "Ann"] }
        ⟨"r1", "Hi Ann", "Hi \x7bName\x7d", ["Name"],
          [⟨"Name", .str "Ann"⟩, ⟨originalFormatKey, .str "Hi \x7bName\x7d"⟩], .named, -1, .base,
          "no variants configured"⟩ := by
  have hc : compile "Hi \x7bName\x7d" = ⟨"Hi \x7bName\x7d", "Hi \x7b0\x7d", ["Name"]⟩ := by
    decide +kernel
  have hr : (compile "Hi \x7bName\x7d").render [.str "Ann"] = .ok "Hi Ann" := by decide +kernel
  have hb : byteLength "Hi \x7bName\x7d" = 9 := by decide +kernel
  rw [hc] at hr
  have hrun : (Processor.process Engines.builtin ⟨{}, Cache.empty⟩
      (some { requestId := "r1", template := "Hi \x7bName\x7d", values := [.str "Ann"] })).1 =
      .ok ⟨"r1", "Hi Ann", "Hi \x7bName\x7d", ["Name"],
        [⟨"Name", .str "Ann"⟩, ⟨originalFormatKey, .str "Hi \x7bName\x7d"⟩], .named, -1, .base,
        "no variants configured"⟩ := by
    simp [Processor.process, checkRequest, renderNamed, Cache.get, Cache.find?, Cache.empty,
      select, checkVariants, Bound.render, Bound.pairs, Template.pairs, pure, Except.pure, hc, hr,
      hb]
    rfl
  exact ⟨.fresh {}, hrun, process_consistent (.fresh {}) _ _ hrun⟩

end Service

end MessageTemplate
