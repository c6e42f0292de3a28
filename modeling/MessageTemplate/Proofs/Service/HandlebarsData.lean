import MessageTemplate.Proofs.Service.Results
import MessageTemplate.Proofs.Selection.Choice
/-! The data a handlebars template is rendered with, against the pairs published for it. -/
namespace MessageTemplate

/-- The value a handlebars template sees for a bound value: no value stays no value, any other
value is coerced. -/
def Value.asData : Value → Value
  | .null => .null
  | v => v.coerce

namespace Service

theorem eq_ok_of_toOption {ε α : Type} {e : Except ε α} {a : α} (h : e.toOption = some a) :
    e = .ok a := by
  cases e with
  | error x => cases h
  | ok b => cases h; rfl

/-- A handlebars request without variants that passes its checks is rendered from its own
template, with the data of its names and values. -/
theorem process_handlebars_base {E : Engines} {p : Processor} {R : Request} {output : String}
    (hcheck : checkRequest E p.options R = .ok ()) (hl : R.language = "handlebars")
    (hen : p.options.handlebarsEnabled = true) (hv : R.variants = [])
    (hlen : R.values.length ≤ R.names.length)
    (hr : E.render R.template (handlebarsData R.names R.values R.template) = .ok output) :
    (p.process E (some R)).1 = .ok ⟨R.requestId, output, R.template, R.names,
      (R.names.zipIdx.map fun (n, i) => (⟨n, R.values.getD i .null⟩ : Pair)) ++
        [⟨originalFormatKey, .str R.template⟩], .handlebars, -1, .base, "no variants configured"⟩ := by
  have hsel : select p.options.conditionsEnabled (some ⟨R.template, R.names, R.values, R.variants⟩)
      E.evaluate = .ok ⟨R.template, -1, "no variants configured", .base⟩ := by
    simp [select, hv, checkVariants]
  simp [Processor.process, hcheck, hl, renderHandlebars, hen, Nat.not_lt.mpr hlen, hsel, hr,
    bind, Except.bind, pure, Except.pure]

/-- Whatever engines it calls, every handlebars rendering a processor publishes is the renderer's
output for a map with one entry per key, binding `OriginalFormat` to the written template, even
where a name has that spelling, and every other name of the pairs but the last to the value of
the last pair that carries it, as data sees it; the map has no other entries. -/
theorem handlebarsData_last_pair_wins {E : Engines} {p : Processor} {R : Request} {r : Rendered}
    (h : (p.process E (some R)).1 = .ok r) (hl : R.language = "handlebars") :
    ∃ M, handlebarsData R.names R.values r.originalFormat = .map M ∧
      E.render r.originalFormat (.map M) = .ok r.output ∧
      (M.map Prod.fst).Nodup ∧
      M.lookup "OriginalFormat" = some (.str r.originalFormat) ∧
      ∀ k, k ≠ "OriginalFormat" →
        M.lookup k = (r.pairs.dropLast.map fun pr => (pr.name, pr.value.asData)).reverse.lookup k := by
  obtain ⟨hl', -⟩ | ⟨-, hh⟩ := process_ok h
  · rcases hl' with hl' | hl' <;> simp [hl] at hl'
  obtain ⟨sel, output, -, hrender, rfl⟩ := renderHandlebars_eq_ok hh
  refine ⟨_, rfl, hrender, nodup_keys_canonicalMembers _, ?_, fun k hk => ?_⟩
  · rw [lookup_canonicalMembers]
    simp
  · -- the template's entry comes last, so any other key is found among the names
    rw [lookup_canonicalMembers, List.reverse_append, List.reverse_singleton, List.singleton_append,
      List.lookup_cons, beq_false_of_ne hk, List.dropLast_concat, List.map_map]
    dsimp only
    congr 2
    apply List.map_congr_left
    rintro ⟨n, i⟩ -
    dsimp only [Function.comp_apply]
    generalize R.values.getD i .null = v
    cases v <;> rfl

/-- A request in the handlebars language whose two names are the same: the data binds the name to
the second value. -/
theorem handlebarsData_last_pair_wins_repeated :
    (Processor.process Engines.builtin ⟨{}, Cache.empty⟩
        (some { requestId := "r-1", template := "hi", names := ["X", "X"],
                values := [.str "x", .str "y"], language := "handlebars" })).1 =
      .ok ⟨"r-1", "hi", "hi", ["X", "X"],
        [⟨"X", .str "x"⟩, ⟨"X", .str "y"⟩, ⟨originalFormatKey, .str "hi"⟩], .handlebars, -1, .base,
        "no variants configured"⟩ ∧
    ({ requestId := "r-1", template := "hi", names := ["X", "X"],
       values := [.str "x", .str "y"], language := "handlebars" } : Request).language =
      "handlebars" ∧
    ∃ M, handlebarsData ["X", "X"] [.str "x", .str "y"] "hi" = .map M ∧
      Engines.builtin.render "hi" (.map M) = .ok "hi" ∧
      (M.map Prod.fst).Nodup ∧
      M.lookup "OriginalFormat" = some (.str "hi") ∧
      ∀ k, k ≠ "OriginalFormat" →
        M.lookup k = (([⟨"X", .str "x"⟩, ⟨"X", .str "y"⟩] : List Pair).map
          fun pr => (pr.name, pr.value.asData)).reverse.lookup k := by
  have hcheck : checkRequest Engines.builtin {}
      { requestId := "r-1", template := "hi", names := ["X", "X"],
        values := [.str "x", .str "y"], language := "handlebars" } = .ok () :=
    eq_ok_of_toOption (by decide +kernel)
  have hrender : Engines.builtin.render "hi"
      (handlebarsData ["X", "X"] [.str "x", .str "y"] "hi") = .ok "hi" :=
    eq_ok_of_toOption (by decide +kernel)
  have hrun := @process_handlebars_base Engines.builtin ⟨{}, Cache.empty⟩ _ _ hcheck rfl rfl rfl
    (by decide) hrender
  exact ⟨hrun, rfl, handlebarsData_last_pair_wins hrun rfl⟩

/-- When a name repeats, the data leaves out an earlier pair of it: for the names `X`, `X` with
the values `x`, `y`, the data binds `X` to `y` while the first pair is `X` with `x`. -/
theorem handlebarsData_drops_earlier_pair :
    ∃ r M, (Processor.process Engines.builtin ⟨{}, Cache.empty⟩
        (some { requestId := "r-1", template := "\x7b\x7bX\x7d\x7d", names := ["X", "X"],
                values := [.str "x", .str "y"], language := "handlebars" })).1 = .ok r ∧
      handlebarsData ["X", "X"] [.str "x", .str "y"] r.originalFormat = .map M ∧
      (⟨"X", .str "x"⟩ : Pair) ∈ r.pairs.dropLast ∧
      M.lookup "X" = some (.str "y") ∧ M.lookup "X" ≠ some (Value.str "x").coerce := by
  have hdata : handlebarsData ["X", "X"] [.str "x", .str "y"] "\x7b\x7bX\x7d\x7d" =
      .map [("OriginalFormat", .str "\x7b\x7bX\x7d\x7d"), ("X", .str "y")] := by
    simp only [handlebarsData, canonicalMembers]
    rw [List.mergeSort_of_pairwise]
    · rfl
    · decide
  have hcheck : checkRequest Engines.builtin {}
      { requestId := "r-1", template := "\x7b\x7bX\x7d\x7d", names := ["X", "X"],
        values := [.str "x", .str "y"], language := "handlebars" } = .ok () :=
    eq_ok_of_toOption (by decide +kernel)
  -- the rendering succeeds; its text is not needed
  obtain ⟨output, hrender⟩ : ∃ output, Engines.builtin.render "\x7b\x7bX\x7d\x7d"
      (handlebarsData ["X", "X"] [.str "x", .str "y"] "\x7b\x7bX\x7d\x7d") = .ok output := by
    rw [hdata]
    have h : (Engines.builtin.render "\x7b\x7bX\x7d\x7d"
        (.map [("OriginalFormat", .str "\x7b\x7bX\x7d\x7d"), ("X", .str "y")])).toOption.isSome =
        true := by
      decide +kernel
    obtain ⟨s, hs⟩ := Option.isSome_iff_exists.mp h
    exact ⟨s, eq_ok_of_toOption hs⟩
  refine ⟨_, _, @process_handlebars_base Engines.builtin ⟨{}, Cache.empty⟩ _ _ hcheck rfl rfl rfl
    (by decide) hrender, hdata, List.mem_cons_self, rfl, ?_⟩
  have hx : [("OriginalFormat", Value.str "\x7b\x7bX\x7d\x7d"), ("X", Value.str "y")].lookup "X" =
      some (.str "y") := rfl
  rw [hx]
  simp [Value.coerce]

end Service

end MessageTemplate
