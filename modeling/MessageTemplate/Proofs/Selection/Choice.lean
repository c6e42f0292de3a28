import MessageTemplate.Selection.Select
/-! Choosing among variants, with conditions valued by any evaluator. -/
namespace MessageTemplate

/-! ### Map members -/

section Members
variable {α : Type}

theorem lookup_filter_ne (acc : List (String × α)) {k k' : String} (hk : k ≠ k') :
    (acc.filter (·.1 != k')).lookup k = acc.lookup k := by
  induction acc with
  | nil => rfl
  | cons p acc ih =>
    obtain ⟨k₀, v₀⟩ := p
    rw [List.filter_cons]
    by_cases hp : k₀ = k'
    · -- the dropped entry is not the key's
      subst hp
      simp [ih, List.lookup_cons, beq_false_of_ne hk]
    · simp [hp, ih, List.lookup_cons]

theorem lookup_foldl_enter (kvs acc : List (String × α)) (k : String) :
    (kvs.foldl (fun acc kv => kv :: acc.filter (·.1 != kv.1)) acc).lookup k =
      (kvs.reverse.lookup k).or (acc.lookup k) := by
  induction kvs generalizing acc with
  | nil => simp
  | cons kv kvs ih =>
    obtain ⟨k₀, v₀⟩ := kv
    rw [List.foldl_cons, ih, List.reverse_cons, List.lookup_append, Option.or_assoc]
    congr 1
    by_cases hk : k = k₀
    · simp [hk]
    · simp [List.lookup_cons, beq_false_of_ne hk, lookup_filter_ne acc hk]

theorem nodup_keys_foldl_enter (kvs acc : List (String × α)) (h : (acc.map Prod.fst).Nodup) :
    ((kvs.foldl (fun acc kv => kv :: acc.filter (·.1 != kv.1)) acc).map Prod.fst).Nodup := by
  induction kvs generalizing acc with
  | nil => exact h
  | cons kv kvs ih =>
    refine ih _ ?_
    rw [List.map_cons, List.nodup_cons]
    refine ⟨fun hmem => ?_, (List.filter_sublist.map Prod.fst).nodup h⟩
    -- the filter dropped every entry with the new key
    obtain ⟨p, hp, hpk⟩ := List.mem_map.mp hmem
    have hne := (List.mem_filter.mp hp).2
    simp [hpk] at hne

theorem lookup_eq_some_of_mem {l : List (String × α)} (hl : (l.map Prod.fst).Nodup)
    {k : String} {v : α} (h : (k, v) ∈ l) : l.lookup k = some v := by
  induction l with
  | nil => cases h
  | cons p l ih =>
    rw [List.map_cons, List.nodup_cons] at hl
    obtain ⟨k₀, v₀⟩ := p
    rcases List.mem_cons.mp h with heq | hmem
    · simp_all
    · -- the key is found further on, so it is not the head's
      have hk : k ≠ k₀ := by
        rintro rfl
        exact hl.1 (List.mem_map.mpr ⟨(k, v), hmem, rfl⟩)
      rw [List.lookup_cons, beq_false_of_ne hk]
      exact ih hl.2 hmem

theorem lookup_eq_of_perm {l₁ l₂ : List (String × α)} (hp : l₁.Perm l₂)
    (hl : (l₁.map Prod.fst).Nodup) (k : String) : l₁.lookup k = l₂.lookup k := by
  cases h : l₁.lookup k with
  | none =>
    rw [List.lookup_eq_none_iff] at h
    exact (List.lookup_eq_none_iff.mpr fun p hp2 => h p (hp.mem_iff.mpr hp2)).symm
  | some v =>
    obtain ⟨l, l', rfl, -⟩ := List.lookup_eq_some_iff.mp h
    exact (lookup_eq_some_of_mem ((hp.map Prod.fst).nodup_iff.mp hl)
      (hp.mem_iff.mp (by simp))).symm

/-- Canonical members find a key's last entry. -/
theorem lookup_canonicalMembers (kvs : List (String × α)) (k : String) :
    (canonicalMembers kvs).lookup k = kvs.reverse.lookup k := by
  unfold canonicalMembers
  dsimp only
  have hperm := List.mergeSort_perm
    (kvs.foldl (fun acc kv => kv :: acc.filter (·.1 != kv.1)) []) fun a b => decide (a.1 ≤ b.1)
  rw [← lookup_eq_of_perm hperm.symm (nodup_keys_foldl_enter kvs [] List.nodup_nil),
    lookup_foldl_enter]
  simp

/-- Canonical members have one entry per key. -/
theorem nodup_keys_canonicalMembers (kvs : List (String × α)) :
    ((canonicalMembers kvs).map Prod.fst).Nodup := by
  unfold canonicalMembers
  dsimp only
  exact ((List.mergeSort_perm _ _).map Prod.fst).nodup_iff.mpr
    (nodup_keys_foldl_enter kvs [] List.nodup_nil)

theorem lookup_reverse_of_last (pre post : List (String × α)) (k : String) (v : α)
    (hlast : k ∉ post.map Prod.fst) : (pre ++ (k, v) :: post).reverse.lookup k = some v := by
  have hnone : post.reverse.lookup k = none := by
    rw [List.lookup_eq_none_iff]
    intro p hp
    have : k ≠ p.1 := fun h => hlast (h ▸ List.mem_map_of_mem (List.mem_reverse.mp hp))
    simpa using this
  rw [List.reverse_append, List.reverse_cons, List.append_assoc, List.lookup_append, hnone,
    Option.none_or, List.singleton_append]
  simp

end Members

/-! ### What conditions see -/

/-- The variables of a choice: the base template, and under `values` a map that finds each name
at its last place among the names, bound to the value there as conditions see it, or to no value
when the values run out; other names are not in the map. -/
theorem conditionVars_spec (input : SelectInput) :
    ∃ m, conditionVars input = [("values", .map m), ("template", .str input.template)] ∧
      (∀ n, n ∉ input.names → m.lookup n = none) ∧
      ∀ i (hi : i < input.names.length), input.names[i] ∉ input.names.drop (i + 1) →
        m.lookup input.names[i] =
          some ((input.values[i]?.map Value.forCondition).getD .null) := by
  refine ⟨_, rfl, fun n hn => ?_, fun i hi hlast => ?_⟩
  all_goals
    generalize hb : input.names.zipIdx.map _ = bound
    have hkeys : bound.map Prod.fst = input.names := by
      rw [← hb, List.map_map]
      exact List.zipIdx_map_fst 0 _
    rw [lookup_canonicalMembers]
  · rw [List.lookup_eq_none_iff]
    intro p hp
    have : n ≠ p.1 := fun h => hn (h ▸ hkeys ▸ List.mem_map_of_mem (List.mem_reverse.mp hp))
    simpa using this
  · -- the name's entry splits the bound names at its place
    have hib : i < bound.length := by simpa [← hkeys] using hi
    have hentry : bound[i] =
        (input.names[i], (input.values[i]?.map Value.forCondition).getD .null) := by
      simp [← hb]
    have hsplit : bound = bound.take i ++ bound[i] :: bound.drop (i + 1) := by
      rw [List.getElem_cons_drop, List.take_append_drop]
    have hdrop : (bound.drop (i + 1)).map Prod.fst = input.names.drop (i + 1) := by
      rw [List.map_drop, hkeys]
    rw [hsplit, hentry]
    exact lookup_reverse_of_last _ _ _ _ (by rw [hdrop]; exact hlast)

/-! ### The first variant whose condition is true -/

section Choice
variable {value : String → Condition.Activation → Except String Condition.CelVal}
  {vars : Condition.Activation}

/-- A condition holds exactly when its value is the truth value `true`. -/
theorem evaluateBool_eq_ok_true (src : String) :
    Condition.evaluateBool src vars value = .ok true ↔ value src vars = .ok (.bool true) := by
  unfold Condition.evaluateBool
  split <;> simp_all

/-- The first variant whose condition holds is found, after those whose conditions do not. -/
theorem firstMatch_of_first {vs : List Variant} {k : Nat} {v : Variant} (hk : vs[k]? = some v)
    (htrue : value v.condition vars = .ok (.bool true))
    (hbefore : ∀ w ∈ vs.take k, value w.condition vars ≠ .ok (.bool true)) (i : Nat) :
    firstMatch value vars vs i = some (v, i + k) := by
  induction vs generalizing k i with
  | nil => cases hk
  | cons w vs ih =>
    cases k with
    | zero =>
      cases hk
      simp [firstMatch, (evaluateBool_eq_ok_true _).mpr htrue]
    | succ k =>
      have hw : Condition.evaluateBool w.condition vars value ≠ .ok true := fun h =>
        hbefore w (by simp) ((evaluateBool_eq_ok_true _).mp h)
      rw [firstMatch]
      split
      case h_1 h => exact absurd h hw
      case h_2 =>
        rw [ih hk (fun u hu => hbefore u (by simp [hu])) (i + 1)]
        simp only [Option.some.injEq, Prod.mk.injEq, true_and]
        omega

theorem firstMatch_of_none_true {vs : List Variant}
    (h : ∀ w ∈ vs, value w.condition vars ≠ .ok (.bool true)) (i : Nat) :
    firstMatch value vars vs i = none := by
  induction vs generalizing i with
  | nil => rfl
  | cons w vs ih =>
    have hw : Condition.evaluateBool w.condition vars value ≠ .ok true := fun hw =>
      h w List.mem_cons_self ((evaluateBool_eq_ok_true _).mp hw)
    rw [firstMatch]
    split
    case h_1 hw' => exact absurd hw' hw
    case h_2 => exact ih (fun u hu => h u (List.mem_cons_of_mem w hu)) (i + 1)

end Choice

/-! ### Choosing -/

theorem checkVariants_eq_ok_iff (vs : List Variant) :
    checkVariants vs = .ok () ↔ ∀ v ∈ vs, v.condition ≠ "" ∧ v.template ≠ "" := by
  -- a variant is listed exactly when it is listed with some index
  have hmem : ∀ v, v ∈ vs ↔ ∃ i, (v, i) ∈ vs.zipIdx := fun v => by
    simp only [List.mem_zipIdx_iff_getElem?]
    exact List.mem_iff_getElem?
  unfold checkVariants
  split
  case h_1 v i hfind =>
    have hv := List.find?_some hfind
    refine ⟨fun h => ?_, fun h => ?_⟩
    · split at h <;> cases h
    · obtain ⟨hc, ht⟩ := h v ((hmem v).mpr ⟨i, List.mem_of_find?_eq_some hfind⟩)
      simp [hc, ht] at hv
  case h_2 hfind =>
    refine ⟨fun _ v hv => ?_, fun _ => rfl⟩
    obtain ⟨i, hi⟩ := (hmem v).mp hv
    have := List.find?_eq_none.mp hfind (v, i) hi
    simpa using this

section Select
variable (value : String → Condition.Activation → Except String Condition.CelVal) (enabled : Bool)
  (input : SelectInput)

theorem select_refused (h : ∃ v ∈ input.variants, v.condition = "" ∨ v.template = "") :
    ∃ e, select enabled (some input) value = .error e := by
  have hcheck : checkVariants input.variants ≠ .ok () := by
    rw [ne_eq, checkVariants_eq_ok_iff]
    obtain ⟨v, hv, hempty⟩ := h
    exact fun hall => hempty.elim (hall v hv).1 (hall v hv).2
  cases hc : checkVariants input.variants with
  | error e => exact ⟨"invalid input: " ++ e, by simp [select, hc]⟩
  | ok u => exact absurd hc hcheck

variable {input}
variable (hvalid : ∀ v ∈ input.variants, v.condition ≠ "" ∧ v.template ≠ "")
include hvalid

theorem select_base (h : input.variants = []) :
    select enabled (some input) value = .ok ⟨input.template, -1, "no variants configured", .base⟩ := by
  simp only [select, (checkVariants_eq_ok_iff _).mpr hvalid]
  simp [h]

theorem select_disabled (h : input.variants ≠ []) :
    select false (some input) value =
      .ok ⟨input.template, -1, "variant evaluation disabled", .disabled⟩ := by
  simp [select, (checkVariants_eq_ok_iff _).mpr hvalid, h]

theorem select_variant {i : Nat} {v : Variant} (hi : input.variants[i]? = some v)
    (htrue : value v.condition (conditionVars input) = .ok (.bool true))
    (hbefore : ∀ w ∈ input.variants.take i,
      value w.condition (conditionVars input) ≠ .ok (.bool true)) :
    select true (some input) value =
      .ok ⟨v.template, i, "matched variant " ++ toString i ++ ": " ++ v.condition, .variant⟩ := by
  have hne : input.variants ≠ [] := by
    rintro h
    simp [h] at hi
  simp [select, (checkVariants_eq_ok_iff _).mpr hvalid, hne,
    firstMatch_of_first hi htrue hbefore 0]

theorem select_fallback (hne : input.variants ≠ [])
    (hnone : ∀ w ∈ input.variants, value w.condition (conditionVars input) ≠ .ok (.bool true)) :
    select true (some input) value =
      .ok ⟨input.template, -1, "no variants matched", .fallback⟩ := by
  simp [select, (checkVariants_eq_ok_iff _).mpr hvalid, hne, firstMatch_of_none_true hnone 0]

end Select

/-- A choice takes the first variant whose condition is true, whatever the evaluator: it is
refused without an input or with a variant that lacks a condition or a template; otherwise it
keeps the base template when there are no variants, when conditions are disabled and when no
condition is the truth value `true`, and else takes the first variant whose condition is, past
conditions that fail or give another value. Conditions see the base template and each name bound
to the value at its place. -/
theorem select_first_true
    (value : String → Condition.Activation → Except String Condition.CelVal) (enabled : Bool) :
    (∃ e, select enabled none value = .error e) ∧
    ∀ input : SelectInput,
      ((∃ v ∈ input.variants, v.condition = "" ∨ v.template = "") →
        ∃ e, select enabled (some input) value = .error e) ∧
      ((∀ v ∈ input.variants, v.condition ≠ "" ∧ v.template ≠ "") →
        (input.variants = [] →
          select enabled (some input) value =
            .ok ⟨input.template, -1, "no variants configured", .base⟩) ∧
        (input.variants ≠ [] → enabled = false →
          select enabled (some input) value =
            .ok ⟨input.template, -1, "variant evaluation disabled", .disabled⟩) ∧
        (enabled = true → ∀ (i : Nat) (v : Variant), input.variants[i]? = some v →
          value v.condition (conditionVars input) = .ok (.bool true) →
          (∀ w ∈ input.variants.take i,
            value w.condition (conditionVars input) ≠ .ok (.bool true)) →
          select enabled (some input) value =
            .ok ⟨v.template, i, "matched variant " ++ toString i ++ ": " ++ v.condition,
              .variant⟩) ∧
        (input.variants ≠ [] → enabled = true →
          (∀ w ∈ input.variants, value w.condition (conditionVars input) ≠ .ok (.bool true)) →
          select enabled (some input) value =
            .ok ⟨input.template, -1, "no variants matched", .fallback⟩)) ∧
      ∃ m, conditionVars input = [("values", .map m), ("template", .str input.template)] ∧
        (∀ n, n ∉ input.names → m.lookup n = none) ∧
        ∀ i (hi : i < input.names.length), input.names[i] ∉ input.names.drop (i + 1) →
          m.lookup input.names[i] =
            some ((input.values[i]?.map Value.forCondition).getD .null) := by
  refine ⟨⟨_, rfl⟩, fun input => ⟨select_refused value enabled input, fun hvalid => ?_,
    conditionVars_spec input⟩⟩
  refine ⟨select_base value enabled hvalid, fun hne hoff => ?_, fun hon => ?_,
    fun hne hon => ?_⟩
  · subst hoff
    exact select_disabled value hvalid hne
  · subst hon
    exact fun i v hi htrue hbefore => select_variant value hvalid hi htrue hbefore
  · subst hon
    exact select_fallback value hvalid hne

end MessageTemplate
