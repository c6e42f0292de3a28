import Mathlib.Data.List.TakeWhile
import MessageTemplate.Proofs.Template.Placeholders
import MessageTemplate.Template.Pairs
/-! The names a compiled template binds. -/
namespace MessageTemplate.Template

/-- The form of every name the compiler reads: no `,` or `:`, no `{` first, and every maximal
run of `}` of even length. -/
structure NameShape (name : String) : Prop where
  comma_not_mem : ',' ∉ name.toList
  colon_not_mem : ':' ∉ name.toList
  head_ne_open : name.toList.head? ≠ some '{'
  even_close_runs : ∀ k, IsRun '}' name.toList k → k % 2 = 0

theorem NameShape.ne_originalFormatKey {name : String} (h : NameShape name) :
    name ≠ originalFormatKey := by
  rintro rfl
  exact h.head_ne_open rfl

/-- The body of a placeholder does not start with `{`: the open brace ends its run. -/
theorem head_body_of_nextMatch {cs lead body after : List Char}
    (h : nextMatch cs = some (lead, body, after)) : ∀ c ∈ body.head?, c ≠ '{' := by
  have hopen := findRun_spec '{' cs
  unfold nextMatch at h
  split at h
  case h_1 => cases h
  case h_2 start len hfind =>
    rw [hfind] at hopen
    obtain ⟨pre, post, rfl, rfl, -, -, hhead, -, -⟩ := hopen
    have hdrop : (pre ++ List.replicate len '{' ++ post).drop (pre.length + len) = post := by
      simp
    dsimp only at h
    rw [hdrop] at h
    split at h
    case h_1 => cases h
    case h_2 closeAt _ _ =>
      simp only [Option.some.injEq, Prod.mk.injEq] at h
      obtain ⟨-, rfl, -⟩ := h
      intro c hc
      rw [List.head?_take] at hc
      split at hc
      · cases hc
      · exact hhead c hc

theorem IsMatch.name_paired {cs lead body after : List Char} (h : IsMatch cs lead body after) :
    Paired '}' (Placeholder.ofMatch lead body).name.toList := by
  have hsplit := List.takeWhile_append_dropWhile (p := fun ch => !isNameEnd ch) (l := body)
  simp only [Placeholder.ofMatch, String.toList_ofList]
  rcases hs : body.dropWhile (fun ch => !isNameEnd ch) with _ | ⟨c, s⟩
  · rw [hs, List.append_nil] at hsplit
    rw [hsplit]
    exact h.body_paired
  · have hc : c ≠ '}' := by
      have := Placeholder.suffix_head lead body c (by simp [Placeholder.ofMatch, hs])
      rcases this with rfl | rfl <;> decide
    rw [hs] at hsplit
    exact (Paired.split hc (hsplit ▸ h.body_paired)).1

theorem nameShape_ofMatch {cs lead body after : List Char}
    (h : nextMatch cs = some (lead, body, after)) :
    NameShape (Placeholder.ofMatch lead body).name := by
  have hname : (Placeholder.ofMatch lead body).name.toList =
      body.takeWhile fun ch => !isNameEnd ch := by
    simp [Placeholder.ofMatch]
  -- a name is read while no `,` or `:` comes
  have hend : ∀ c ∈ (Placeholder.ofMatch lead body).name.toList, isNameEnd c = false := by
    intro c hc
    rw [hname] at hc
    simpa using List.mem_takeWhile_imp hc
  refine ⟨fun hc => ?_, fun hc => ?_, fun hh => ?_, fun k hk => ?_⟩
  · exact absurd (hend ',' hc) (by decide)
  · exact absurd (hend ':' hc) (by decide)
  · rw [hname, List.head?_takeWhile] at hh
    exact head_body_of_nextMatch h '{' (Option.eq_some_of_filter_eq_some hh) rfl
  · exact (isMatch_of_nextMatch h).name_paired.even_of_isRun hk

theorem nameShape_of_mem_parts {cs : List Char} {p : Placeholder} (hp : p ∈ (parts cs).1) :
    NameShape p.name := by
  induction cs using parts.induct with
  | case1 cs h =>
    rw [parts_of_none h] at hp
    cases hp
  | case2 cs lead body after h _ ih =>
    rw [parts_of_some h] at hp
    rcases List.mem_cons.mp hp with rfl | hp
    · exact nameShape_ofMatch h
    · exact ih hp

theorem nameShape_of_mem_names {raw name : String} (h : name ∈ (compile raw).names) :
    NameShape name := by
  rw [compile_names, mem_numbered] at h
  rcases h with h | ⟨p, hp, rfl⟩
  · cases h
  · exact nameShape_of_mem_parts hp

theorem nodup_compile_names (raw : String) : (compile raw).names.Nodup := by
  rw [compile_names]
  exact nodup_numbered _ List.nodup_nil

theorem pairs_names (t : Template) (values : List Value) :
    (t.pairs values).map Pair.name = t.names ++ [originalFormatKey] := by
  simp only [Template.pairs, List.map_append, List.map_map, List.map_cons, List.map_nil]
  congr 1
  exact List.zipIdx_map_fst 0 _

theorem nodup_pairs_names (raw : String) (values : List Value) :
    (((compile raw).pairs values).map Pair.name).Nodup := by
  rw [pairs_names]
  refine List.nodup_append.mpr
    ⟨nodup_compile_names raw, List.nodup_cons.mpr ⟨List.not_mem_nil, List.nodup_nil⟩, ?_⟩
  intro a ha b hb
  rw [List.mem_singleton.mp hb]
  exact (nameShape_of_mem_names ha).ne_originalFormatKey

/-- Entering pairs whose names are new and distinct into a map, one after another, appends
them. -/
theorem foldl_enter_fresh (ps : List Pair) (acc : List (String × Value))
    (hn : (ps.map Pair.name).Nodup) (hacc : ∀ kv ∈ acc, kv.1 ∉ ps.map Pair.name) :
    ps.foldl (fun acc p => (acc.filter (·.1 != p.name)) ++ [(p.name, p.value)]) acc =
      acc ++ ps.map fun p => (p.name, p.value) := by
  induction ps generalizing acc with
  | nil => simp
  | cons p ps ih =>
    simp only [List.map_cons, List.nodup_cons] at hn
    have hacc' : ∀ kv ∈ acc, kv.1 ≠ p.name ∧ kv.1 ∉ ps.map Pair.name := fun kv hkv => by
      simpa only [List.map_cons, List.mem_cons, not_or] using hacc kv hkv
    -- no entry so far has the name of `p`, so the filter keeps them all
    have hkeep : acc.filter (·.1 != p.name) = acc :=
      List.filter_eq_self.mpr fun kv hkv => by simpa using (hacc' kv hkv).1
    rw [List.foldl_cons, hkeep, ih _ hn.2]
    · simp
    · intro kv hkv
      rcases List.mem_append.mp hkv with hkv | hkv
      · exact (hacc' kv hkv).2
      · rw [List.mem_singleton.mp hkv]
        exact hn.1

theorem Bound.toMap_of_nodup (b : Bound) (h : (b.pairs.map Pair.name).Nodup) :
    b.toMap = b.pairs.map fun p => (p.name, p.value) := by
  rw [Bound.toMap, foldl_enter_fresh _ [] h (by simp), List.nil_append]

/-- Placeholder names never collide with the written template's key: every name has no `,` or
`:`, does not start with `{` and has only even runs of `}`, so the pairs of a compiled template
have distinct names and its map holds exactly one entry per pair, each pair's name mapped to its
value. -/
theorem compile_names_keyed (raw : String) (values : List Value) :
    (∀ name ∈ (compile raw).names, NameShape name) ∧
      originalFormatKey ∉ (compile raw).names ∧
      (((compile raw).pairs values).map Pair.name).Nodup ∧
      (Bound.mk (compile raw) values).toMap =
        ((compile raw).pairs values).map (fun p => (p.name, p.value)) ∧
      (Bound.mk (compile raw) values).toMap.length = (Bound.mk (compile raw) values).len := by
  have hmap := Bound.toMap_of_nodup ⟨compile raw, values⟩ (nodup_pairs_names raw values)
  refine ⟨fun _ => nameShape_of_mem_names, fun h => ?_, nodup_pairs_names raw values, hmap, ?_⟩
  · exact (nameShape_of_mem_names h).ne_originalFormatKey rfl
  · rw [hmap, List.length_map, ← List.length_map (f := Pair.name), Bound.pairs, pairs_names]
    simp [Bound.len, Template.len]

end MessageTemplate.Template
