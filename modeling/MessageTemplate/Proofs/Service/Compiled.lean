import Mathlib.Data.Finset.Card
import MessageTemplate.Proofs.Service.Results
/-! The templates a processor has compiled, counted by its cache. -/
namespace MessageTemplate

namespace Cache

/-- The written templates a cache holds, in the order they were stored. -/
def keys (c : Cache) : List String := c.entries.map (·.1)

theorem size_eq_length_keys (c : Cache) : c.size = c.keys.length := by
  simp [size, keys]

theorem mem_keys_of_find? {c : Cache} {raw : String} {e : CacheEntry} (h : c.find? raw = some e) :
    raw ∈ c.keys := by
  have hs : (c.entries.lookup raw).isSome := by rw [← find?, h]; rfl
  obtain ⟨p, hp, hraw⟩ := List.lookup_isSome_iff.mp hs
  exact List.mem_map.mpr ⟨p, hp, (beq_iff_eq.mp hraw).symm⟩

theorem not_mem_keys_of_find? {c : Cache} {raw : String} (h : c.find? raw = none) :
    raw ∉ c.keys := by
  intro hk
  obtain ⟨p, hp, rfl⟩ := List.mem_map.mp hk
  have := List.lookup_eq_none_iff.mp h p hp
  simp at this

theorem mem_keys_get (c : Cache) (raw x : String) :
    x ∈ (c.get raw).2.keys ↔ x ∈ c.keys ∨ x = raw := by
  unfold get
  cases hf : c.find? raw with
  | some e =>
    have := mem_keys_of_find? hf
    constructor
    · exact .inl
    · rintro (h | rfl)
      · exact h
      · exact this
  | none => simp [keys]

theorem nodup_keys_get {c : Cache} (hc : c.keys.Nodup) (raw : String) :
    (c.get raw).2.keys.Nodup := by
  unfold get
  cases hf : c.find? raw with
  | some e => exact hc
  | none =>
    have hkeys : (⟨c.entries ++ [(raw, ⟨Template.compile raw, c.nextStamp⟩)], c.nextStamp + 1⟩ : Cache).keys =
        c.keys.concat raw := by
      simp [keys]
    rw [hkeys]
    exact hc.concat (not_mem_keys_of_find? hf)

end Cache

namespace Service

open Template

/-- A set of written templates held once each: a cache's texts are distinct and are those of
`texts`. -/
def Holds (c : Cache) (texts : List String) : Prop :=
  c.keys.Nodup ∧ ∀ x, x ∈ c.keys ↔ x ∈ texts

theorem holds_empty : Holds Cache.empty [] := ⟨List.nodup_nil, by simp [Cache.empty, Cache.keys]⟩

theorem Holds.get {c : Cache} {texts : List String} (h : Holds c texts) (raw : String) :
    Holds (c.get raw).2 (texts ++ [raw]) :=
  ⟨Cache.nodup_keys_get h.1 raw, fun x => by simp [Cache.mem_keys_get, h.2 x]⟩

/-- A cache holding a set of texts once each holds as many templates as there are distinct
texts. -/
theorem Holds.size {c : Cache} {texts : List String} (h : Holds c texts) :
    c.size = texts.toFinset.card := by
  have hset : c.keys.toFinset = texts.toFinset := by
    ext x
    simp [h.2 x]
  rw [Cache.size_eq_length_keys, ← List.toFinset_card_of_nodup h.1, hset]

/-- The templates a named request compiles: its own, then the one chosen for it when the choice
succeeds. -/
def namedTemplates (E : Engines) (o : Options) (r : Request) : List String :=
  r.template ::
    match select o.conditionsEnabled
        (some ⟨r.template, (compile r.template).names, r.values, r.variants⟩) E.evaluate with
    | .ok sel => [sel.template]
    | .error _ => []

/-- The templates processing a request compiles: for a request in the named language that passes
its checks, those of `namedTemplates`; for any other, none. -/
def compiledBy (E : Engines) (o : Options) : Option Request → List String
  | none => []
  | some r =>
    match checkRequest E o r with
    | .error _ => []
    | .ok () => if r.language.isEmpty || r.language = "named" then namedTemplates E o r else []

theorem holds_renderNamed {E : Engines} {o : Options} {c : Cache} {texts : List String}
    (hc : c.Sound) (h : Holds c texts) (R : Request) :
    Holds (renderNamed E o c R).2 (texts ++ namedTemplates E o R) := by
  unfold renderNamed namedTemplates
  obtain ⟨base, c1, hget, hb, -⟩ := hc.get R.template
  have h1 : Holds c1 (texts ++ [R.template]) := by
    simpa [hget] using h.get R.template
  rw [hget]
  dsimp only
  rw [hb]
  rcases select o.conditionsEnabled
      (some ⟨R.template, (compile R.template).names, R.values, R.variants⟩) E.evaluate with e | sel
  · -- no choice: only the request's own template was compiled
    simpa using h1
  · have h2 := h1.get sel.template
    dsimp only
    split <;> simpa using h2

/-- Processing a request compiles the templates of `compiledBy` and changes nothing else. -/
theorem holds_process {E : Engines} {p : Processor} {texts : List String} (hp : p.cache.Sound)
    (h : Holds p.cache texts) (req : Option Request) :
    (p.process E req).2.options = p.options ∧
      Holds (p.process E req).2.cache (texts ++ compiledBy E p.options req) := by
  unfold Processor.process
  cases req with
  | none => exact ⟨rfl, by simpa [compiledBy] using h⟩
  | some r =>
    dsimp only
    rcases hcheck : checkRequest E p.options r with e | u
    · exact ⟨rfl, by simpa [compiledBy, hcheck] using h⟩
    · dsimp only
      split
      · next hl => exact ⟨rfl, by simpa [compiledBy, hcheck, hl] using holds_renderNamed hp h r⟩
      · next hl =>
        have hc : compiledBy E p.options (some r) = [] := by simp [compiledBy, hcheck, hl]
        rw [hc, List.append_nil]
        split <;> exact ⟨rfl, h⟩

/-- A processor after it processed requests one after another. -/
def Processor.processAll (E : Engines) (p : Processor) (reqs : List (Option Request)) :
    Processor :=
  reqs.foldl (fun p req => (p.process E req).2) p

theorem holds_processAll {E : Engines} {p : Processor} {texts : List String} (hp : p.cache.Sound)
    (h : Holds p.cache texts) (reqs : List (Option Request)) :
    Holds (p.processAll E reqs).cache (texts ++ reqs.flatMap (compiledBy E p.options)) := by
  induction reqs generalizing p texts with
  | nil => simpa [Processor.processAll] using h
  | cons req reqs ih =>
    obtain ⟨hopt, hstep⟩ := holds_process hp h req
    have := ih (process_sound hp req) hstep
    rw [hopt] at this
    simpa [Processor.processAll] using this

/-- Whatever engines it calls, after any run of requests a new processor holds one compiled
template for each distinct text among the templates of the named requests that passed their
checks and the templates chosen for them. -/
theorem cachedTemplates_processAll (E : Engines) (o : Options) (reqs : List (Option Request)) :
    (Processor.processAll E ⟨o, Cache.empty⟩ reqs).cachedTemplates =
      (reqs.flatMap (compiledBy E o)).toFinset.card := by
  have h := holds_processAll (E := E) (p := ⟨o, Cache.empty⟩) Cache.sound_empty holds_empty reqs
  simpa [Processor.cachedTemplates] using h.size

end Service

end MessageTemplate
