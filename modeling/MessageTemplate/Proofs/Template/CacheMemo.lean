import MessageTemplate.Proofs.Service.Compiled
/-! The cache of compiled templates as a memo table. -/
namespace MessageTemplate.Cache

/-- An operation on a cache. -/
inductive Op where
  | get (raw : String)
  | len
  | clear
deriving DecidableEq, Repr

/-- What an operation answers. -/
inductive Reply where
  | template (e : CacheEntry)
  | count (n : Nat)
  | cleared
deriving DecidableEq, Repr

/-- The text an operation looks up, if it is a lookup. -/
def Op.raw? : Op → Option String
  | .get raw => some raw
  | _ => none

/-- Perform one operation: its answer and the cache after it. -/
def perform (c : Cache) : Op → Reply × Cache
  | .get raw => (.template (c.get raw).1, (c.get raw).2)
  | .len => (.count c.size, c)
  | .clear => (.cleared, c.clear)

@[simp] theorem perform_get (c : Cache) (raw : String) :
    c.perform (.get raw) = (.template (c.get raw).1, (c.get raw).2) := rfl

@[simp] theorem perform_len (c : Cache) : c.perform .len = (.count c.size, c) := rfl

@[simp] theorem perform_clear (c : Cache) : c.perform .clear = (.cleared, c.clear) := rfl

/-- The cache after the operations of a session. -/
def replay (c : Cache) (ops : List Op) : Cache := ops.foldl (fun c op => (c.perform op).2) c

/-- The answers of the operations of a session, in order. -/
def replies (c : Cache) : List Op → List Reply
  | [] => []
  | op :: ops => (c.perform op).1 :: (c.perform op).2.replies ops

/-- The texts a session looks up after its last clearing, or from its start when it has none. -/
def sinceClear (ops : List Op) : List String :=
  ((ops.reverse.takeWhile (· != .clear)).reverse).filterMap Op.raw?

section Session
variable {c : Cache} {ops : List Op}

@[simp] theorem replay_nil (c : Cache) : c.replay [] = c := rfl

theorem replay_append (c : Cache) (ops ops' : List Op) :
    c.replay (ops ++ ops') = (c.replay ops).replay ops' := by
  simp [replay, List.foldl_append]

theorem replay_snoc (c : Cache) (ops : List Op) (op : Op) :
    c.replay (ops ++ [op]) = ((c.replay ops).perform op).2 := by
  simp [replay, List.foldl_append]

theorem replay_take_succ (c : Cache) {t : Nat} {op : Op} (h : ops[t]? = some op) :
    c.replay (ops.take (t + 1)) = ((c.replay (ops.take t)).perform op).2 := by
  rw [List.take_add_one, h, Option.toList_some, replay_snoc]

theorem replies_getElem? (c : Cache) (ops : List Op) (i : Nat) :
    (c.replies ops)[i]? = ops[i]?.map fun op => ((c.replay (ops.take i)).perform op).1 := by
  induction ops generalizing c i with
  | nil => simp [replies]
  | cons op ops ih =>
    cases i with
    | zero => simp [replies]
    | succ i => simp [replies, ih, replay]

@[simp] theorem sinceClear_get (ops : List Op) (raw : String) :
    sinceClear (ops ++ [.get raw]) = sinceClear ops ++ [raw] := by
  simp [sinceClear, Op.raw?]

@[simp] theorem sinceClear_len (ops : List Op) : sinceClear (ops ++ [.len]) = sinceClear ops := by
  simp [sinceClear, Op.raw?]

@[simp] theorem sinceClear_clear (ops : List Op) : sinceClear (ops ++ [.clear]) = [] := by
  simp [sinceClear]

end Session

/-! ### What one operation keeps -/

theorem Sound.perform {c : Cache} (hc : c.Sound) (op : Op) : (c.perform op).2.Sound := by
  cases op with
  | get raw =>
    obtain ⟨e, c', hget, -, hc'⟩ := hc.get raw
    rw [perform_get, hget]
    exact hc'
  | len => exact hc
  | clear =>
    intro raw e h
    simp at h

theorem Sound.replay {c : Cache} (hc : c.Sound) (ops : List Op) : (c.replay ops).Sound := by
  induction ops generalizing c with
  | nil => exact hc
  | cons op ops ih => exact ih (hc.perform op)

theorem find?_get_of_find? {c : Cache} {x : String} {e : CacheEntry} (h : c.find? x = some e)
    (raw : String) : (c.get raw).2.find? x = some e := by
  cases hf : c.find? raw with
  | some e' =>
    rw [get_of_find? hf]
    exact h
  | none =>
    rw [get_of_find?_none hf]
    simp only [find?, List.lookup_append] at h ⊢
    rw [h, Option.some_or]

theorem find?_replay {c : Cache} {x : String} {e : CacheEntry} (h : c.find? x = some e)
    {ops : List Op} (hops : ∀ op ∈ ops, op ≠ .clear) : (c.replay ops).find? x = some e := by
  induction ops generalizing c with
  | nil => exact h
  | cons op ops ih =>
    apply ih _ fun op' hop' => hops op' (List.mem_cons_of_mem op hop')
    cases op with
    | get raw => exact find?_get_of_find? h raw
    | len => exact h
    | clear => exact absurd rfl (hops .clear List.mem_cons_self)

theorem holds_clear (c : Cache) : Service.Holds c.clear [] :=
  ⟨List.nodup_nil, by simp [clear, keys]⟩

theorem holds_replay (ops : List Op) : Service.Holds (empty.replay ops) (sinceClear ops) := by
  induction ops using List.reverseRecOn with
  | nil => exact Service.holds_empty
  | append_singleton ops op ih =>
    rw [replay_snoc]
    cases op with
    | get raw => simpa [perform] using ih.get raw
    | len => simpa [perform] using ih
    | clear => simpa [perform] using holds_clear (empty.replay ops)

/-! ### Stamps -/

/-- Every stored template has a stamp from `n` on and below the next stamp, which is at least
`n`. -/
def Stamped (n : Nat) (c : Cache) : Prop :=
  n ≤ c.nextStamp ∧ ∀ x e, c.find? x = some e → n ≤ e.stamp ∧ e.stamp < c.nextStamp

theorem stamped_empty : Stamped 0 empty := by
  refine ⟨Nat.zero_le _, fun x e h => ?_⟩
  simp at h

theorem stamped_clear (c : Cache) : Stamped c.nextStamp c.clear := by
  refine ⟨Nat.le_refl _, fun x e h => ?_⟩
  simp at h

theorem nextStamp_le_get (c : Cache) (raw : String) : c.nextStamp ≤ (c.get raw).2.nextStamp := by
  cases hf : c.find? raw with
  | some e => simp [get_of_find? hf]
  | none => simp [get_of_find?_none hf]

/-- A lookup answers a template stamped from `n` on and below the next stamp after it. -/
theorem Stamped.get {n : Nat} {c : Cache} (h : Stamped n c) (raw : String) :
    Stamped n (c.get raw).2 ∧ n ≤ (c.get raw).1.stamp ∧
      (c.get raw).1.stamp < (c.get raw).2.nextStamp := by
  obtain ⟨hn, hs⟩ := h
  have hle := nextStamp_le_get c raw
  have hc' : Stamped n (c.get raw).2 := by
    refine ⟨Nat.le_trans hn hle, fun x e he => ?_⟩
    rcases find?_get_cases he with hold | ⟨hf, -, rfl⟩
    · have := hs x e hold
      omega
    · rw [get_of_find?_none hf]
      exact ⟨hn, Nat.lt_succ_self _⟩
  -- the answer is stored after the lookup
  exact ⟨hc', hc'.2 raw _ (find?_get_self c raw)⟩

theorem Stamped.perform {n : Nat} {c : Cache} (h : Stamped n c) (op : Op) :
    Stamped n (c.perform op).2 := by
  cases op with
  | get raw => exact (h.get raw).1
  | len => exact h
  | clear =>
    refine ⟨h.1, fun x e hx => ?_⟩
    simp at hx

theorem Stamped.replay {n : Nat} {c : Cache} (h : Stamped n c) (ops : List Op) :
    Stamped n (c.replay ops) := by
  induction ops generalizing c with
  | nil => exact h
  | cons op ops ih => exact ih (h.perform op)

theorem nextStamp_le_perform (c : Cache) (op : Op) : c.nextStamp ≤ (c.perform op).2.nextStamp := by
  cases op with
  | get raw => exact nextStamp_le_get c raw
  | len => exact Nat.le_refl _
  | clear => exact Nat.le_refl _

theorem nextStamp_le_replay (c : Cache) (ops : List Op) : c.nextStamp ≤ (c.replay ops).nextStamp := by
  induction ops generalizing c with
  | nil => exact Nat.le_refl _
  | cons op ops ih => exact Nat.le_trans (nextStamp_le_perform c op) (ih _)

/-! ### Sessions from a new cache -/

section Memo
variable {ops : List Op}

theorem mem_between {i j : Nat} {op : Op} (h : op ∈ (ops.drop (i + 1)).take (j - (i + 1))) :
    ∃ k, i < k ∧ k < j ∧ ops[k]? = some op := by
  obtain ⟨m, hm, hget⟩ := List.getElem_of_mem h
  refine ⟨i + 1 + m, by omega, ?_, ?_⟩
  · simp only [List.length_take, List.length_drop] at hm
    omega
  · have h1 : ((ops.drop (i + 1)).take (j - (i + 1)))[m]? = some op := by
      rw [List.getElem?_eq_getElem hm, hget]
    simp only [List.length_take, List.length_drop] at hm
    rwa [List.getElem?_take_of_lt (by omega), List.getElem?_drop] at h1

theorem replay_take_between (c : Cache) {t j : Nat} (htj : t ≤ j) :
    c.replay (ops.take j) = (c.replay (ops.take t)).replay ((ops.drop t).take (j - t)) := by
  rw [← replay_append, ← List.take_add, Nat.add_sub_cancel' htj]

theorem get_same_of_no_clear {i j : Nat} {raw : String} (hij : i < j)
    (hi : ops[i]? = some (.get raw))
    (hno : ∀ k, i < k → k < j → ops[k]? ≠ some .clear) :
    ((empty.replay (ops.take j)).get raw).1 = ((empty.replay (ops.take i)).get raw).1 := by
  have hafter : (empty.replay (ops.take (i + 1))).find? raw =
      some ((empty.replay (ops.take i)).get raw).1 := by
    rw [replay_take_succ empty hi]
    exact find?_get_self _ raw
  have hmid : (empty.replay (ops.take j)).find? raw = some ((empty.replay (ops.take i)).get raw).1 := by
    rw [replay_take_between empty (Nat.succ_le_of_lt hij)]
    refine find?_replay hafter fun op hop hclear => ?_
    obtain ⟨k, hik, hkj, hk⟩ := mem_between hop
    exact hno k hik hkj (hclear ▸ hk)
  rw [get_of_find? hmid]

/-- A lookup after a clearing answers a template stamped later than any a lookup before the
clearing answered. -/
theorem stamp_lt_of_clear {i k j : Nat} {raw raw' : String} (hik : i < k) (hkj : k < j)
    (hi : ops[i]? = some (.get raw)) (hk : ops[k]? = some .clear) :
    ((empty.replay (ops.take i)).get raw).1.stamp < ((empty.replay (ops.take j)).get raw').1.stamp := by
  -- the answer at `i` is below the next stamp after `i`, which the clearing at `k` starts from
  have hi' := ((stamped_empty.replay (ops.take i)).get raw).2.2
  have hnext : (empty.replay (ops.take (i + 1))).nextStamp =
      ((empty.replay (ops.take i)).get raw).2.nextStamp := by
    rw [replay_take_succ empty hi]
    rfl
  have hmono : (empty.replay (ops.take (i + 1))).nextStamp ≤
      (empty.replay (ops.take k)).nextStamp := by
    rw [replay_take_between empty (Nat.succ_le_of_lt hik)]
    exact nextStamp_le_replay _ _
  have hk' : Stamped (empty.replay (ops.take k)).nextStamp (empty.replay (ops.take (k + 1))) := by
    rw [replay_take_succ empty hk]
    exact stamped_clear _
  have hj := (hk'.replay ((ops.drop (k + 1)).take (j - (k + 1)))).get raw'
  rw [← replay_take_between empty (Nat.succ_le_of_lt hkj)] at hj
  omega

/-- From a new cache, a session answers every lookup with the compilation of its text; two
lookups of one text answer the same stored template exactly when no clearing comes between them;
and every count is the number of distinct texts looked up since the last clearing before it. -/
theorem replies_memo (ops : List Op) :
    (∀ (i : Nat) (raw : String), ops[i]? = some (.get raw) →
      ∃ e, (empty.replies ops)[i]? = some (.template e) ∧ e.template = Template.compile raw) ∧
    (∀ (i j : Nat) (raw : String), i < j → ops[i]? = some (.get raw) → ops[j]? = some (.get raw) →
      ((empty.replies ops)[i]? = (empty.replies ops)[j]? ↔
        ∀ k, i < k → k < j → ops[k]? ≠ some .clear)) ∧
    (∀ i : Nat, ops[i]? = some .len →
      (empty.replies ops)[i]? = some (.count (sinceClear (ops.take i)).toFinset.card)) := by
  refine ⟨fun i raw hi => ?_, fun i j raw hij hi hj => ?_, fun i hi => ?_⟩
  · obtain ⟨e, c', hget, he, -⟩ := (sound_empty.replay (ops.take i)).get raw
    refine ⟨e, ?_, he⟩
    simp [replies_getElem?, hi, perform, hget]
  · simp only [replies_getElem?, hi, hj, Option.map_some, perform, Option.some.injEq,
      Reply.template.injEq]
    constructor
    · intro heq k hik hkj hk
      have := @stamp_lt_of_clear ops i k j raw raw hik hkj hi hk
      rw [heq] at this
      exact Nat.lt_irrefl _ this
    · intro hno
      exact (get_same_of_no_clear hij hi hno).symm
  · simp [replies_getElem?, hi, perform, (holds_replay (ops.take i)).size]

example : empty.replies [.get "a", .get "a", .len, .clear, .len, .get "a"] =
    [.template ⟨Template.compile "a", 0⟩, .template ⟨Template.compile "a", 0⟩, .count 1, .cleared,
      .count 0, .template ⟨Template.compile "a", 1⟩] := by
  decide +kernel

end Memo

end MessageTemplate.Cache
