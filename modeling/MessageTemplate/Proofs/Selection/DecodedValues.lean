import MessageTemplate.Selection.Select
/-! Decoded JSON values as conditions see them: the same shape, every number read. -/
namespace MessageTemplate.Value

/-- The values a JSON decoder that keeps numbers as text produces: no value, truth values, texts,
numbers, and arrays and objects of such values, nested to any depth. -/
inductive Decoded : Value → Prop
  | null : Decoded .null
  | bool (b : Bool) : Decoded (.bool b)
  | str (s : String) : Decoded (.str s)
  | number (lit : String) : Decoded (.number lit)
  | slice {xs : List Value} : (∀ x ∈ xs, Decoded x) → Decoded (.slice xs)
  | map {kvs : List (String × Value)} : (∀ kv ∈ kvs, Decoded kv.2) → Decoded (.map kvs)

/-- How conditions read a number's text: as a 64-bit integer when it reads as one, else as a
64-bit float when it reads as one in range, else as the text itself. -/
inductive ReadsAs (lit : String) : Value → Prop
  | int {i : Int} : (Numeric.readSigned 64 lit).toOption = some i → ReadsAs lit (.int .int64 i)
  | float {x : Binary} : (Numeric.readSigned 64 lit).toOption = none →
      (Numeric.readFloat FloatFormat.double lit).toOption = some x →
      ReadsAs lit (.float .float64 x)
  | text : (Numeric.readSigned 64 lit).toOption = none →
      (Numeric.readFloat FloatFormat.double lit).toOption = none → ReadsAs lit (.str lit)

/-- `w` is the decoded value `v` as conditions see it: arrays of the same lengths and objects
with the same keys in the same order, related element by element; the same empty, truth and text
leaves; and each number read as `ReadsAs` says. -/
inductive SeenAs : Value → Value → Prop
  | null : SeenAs .null .null
  | bool (b : Bool) : SeenAs (.bool b) (.bool b)
  | str (s : String) : SeenAs (.str s) (.str s)
  | number {lit : String} {w : Value} : ReadsAs lit w → SeenAs (.number lit) w
  | slice {xs ys : List Value} : xs.length = ys.length →
      (∀ i (hx : i < xs.length) (hy : i < ys.length), SeenAs xs[i] ys[i]) →
      SeenAs (.slice xs) (.slice ys)
  | map {kvs kws : List (String × Value)} : kvs.map Prod.fst = kws.map Prod.fst →
      (∀ i (hx : i < kvs.length) (hy : i < kws.length), SeenAs kvs[i].2 kws[i].2) →
      SeenAs (.map kvs) (.map kws)

/-- A number text or a plain `int` stands somewhere in the value, at any depth of its arrays,
lists and maps; the elements of integer sequences, arrays and maps are plain `int`s. -/
inductive HasRawNumber : Value → Prop
  | number (lit : String) : HasRawNumber (.number lit)
  | int (v : Int) : HasRawNumber (.int .int v)
  | ints {xs : List Int} {v : Int} : v ∈ xs → HasRawNumber (.ints (some xs))
  | intArray {xs : List Int} {v : Int} : v ∈ xs → HasRawNumber (.intArray xs)
  | intMap {kvs : List (String × Int)} {kv : String × Int} : kv ∈ kvs →
      HasRawNumber (.intMap (some kvs))
  | slice {xs : List Value} {x : Value} : x ∈ xs → HasRawNumber x → HasRawNumber (.slice xs)
  | array {xs : List Value} {x : Value} : x ∈ xs → HasRawNumber x → HasRawNumber (.array xs)
  | list {xs : List Value} {x : Value} : x ∈ xs → HasRawNumber x → HasRawNumber (.list (some xs))
  | map {kvs : List (String × Value)} {kv : String × Value} : kv ∈ kvs → HasRawNumber kv.2 →
      HasRawNumber (.map kvs)

theorem forConditionAll_eq_map (xs : List Value) : forConditionAll xs = xs.map forCondition := by
  induction xs with
  | nil => rfl
  | cons x xs ih => rw [forConditionAll, ih, List.map_cons]

theorem forConditionMembers_eq_map (kvs : List (String × Value)) :
    forConditionMembers kvs = kvs.map fun kv => (kv.1, forCondition kv.2) := by
  induction kvs with
  | nil => rfl
  | cons kv kvs ih => rw [forConditionMembers, ih, List.map_cons]

/-- A number's text is read as `ReadsAs` says, and the reading is no number text or plain
`int`. -/
theorem forCondition_number (lit : String) :
    ReadsAs lit (forCondition (.number lit)) ∧ ¬ HasRawNumber (forCondition (.number lit)) := by
  cases hi : Numeric.readSigned 64 lit with
  | ok i =>
    simp only [forCondition, hi]
    exact ⟨.int (by rw [hi]; rfl), fun h => by cases h⟩
  | error e =>
    have hi' : (Numeric.readSigned 64 lit).toOption = none := by rw [hi]; rfl
    cases hf : Numeric.readFloat FloatFormat.double lit with
    | ok x =>
      simp only [forCondition, hi, hf]
      exact ⟨.float hi' (by rw [hf]; rfl), fun h => by cases h⟩
    | error e' =>
      simp only [forCondition, hi, hf]
      exact ⟨.text hi' (by rw [hf]; rfl), fun h => by cases h⟩

/-- Conditions see a decoded value with its shape and its empty, truth and text leaves kept and
every number read as `ReadsAs` says, with no number text or plain `int` left at any depth. -/
theorem forCondition_decoded {v : Value} (hv : Decoded v) :
    SeenAs v v.forCondition ∧ ¬ HasRawNumber v.forCondition := by
  induction hv with
  | null => exact ⟨.null, fun h => by cases h⟩
  | bool b => exact ⟨.bool b, fun h => by cases h⟩
  | str s => exact ⟨.str s, fun h => by cases h⟩
  | number lit =>
    obtain ⟨hr, hn⟩ := forCondition_number lit
    exact ⟨.number hr, hn⟩
  | @slice xs _ ih =>
    rw [forCondition, forConditionAll_eq_map]
    refine ⟨.slice (List.length_map _).symm fun i hx hy => ?_, fun h => ?_⟩
    · rw [List.getElem_map]
      exact (ih xs[i] (List.getElem_mem hx)).1
    · -- a raw number in the array is one in the reading of some element
      cases h with
      | slice hmem hraw =>
        obtain ⟨x, hx, rfl⟩ := List.mem_map.mp hmem
        exact (ih x hx).2 hraw
  | @map kvs _ ih =>
    rw [forCondition, forConditionMembers_eq_map]
    refine ⟨.map (by simp) fun i hx hy => ?_, fun h => ?_⟩
    · rw [List.getElem_map]
      exact (ih kvs[i] (List.getElem_mem hx)).1
    · cases h with
      | map hmem hraw =>
        obtain ⟨kv, hkv, rfl⟩ := List.mem_map.mp hmem
        exact (ih kv hkv).2 hraw

/-- An object holding an array of a number and a text, and a fraction: conditions see it with
every number read. -/
theorem forCondition_decoded_nested :
    Decoded (.map [("a", .slice [.number "1", .str "x"]), ("b", .number "2.5")]) ∧
      SeenAs (.map [("a", .slice [.number "1", .str "x"]), ("b", .number "2.5")])
        (forCondition (.map [("a", .slice [.number "1", .str "x"]), ("b", .number "2.5")])) ∧
      ¬ HasRawNumber
        (forCondition (.map [("a", .slice [.number "1", .str "x"]), ("b", .number "2.5")])) := by
  have hd : Decoded (.map [("a", .slice [.number "1", .str "x"]), ("b", .number "2.5")]) := by
    refine .map fun kv hkv => ?_
    simp only [List.mem_cons, List.mem_nil_iff, or_false] at hkv
    rcases hkv with rfl | rfl
    · refine .slice fun x hx => ?_
      simp only [List.mem_cons, List.mem_nil_iff, or_false] at hx
      rcases hx with rfl | rfl
      · exact .number "1"
      · exact .str "x"
    · exact .number "2.5"
  exact ⟨hd, forCondition_decoded hd⟩

end MessageTemplate.Value
