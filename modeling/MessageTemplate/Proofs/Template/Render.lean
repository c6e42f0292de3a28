import MessageTemplate.Proofs.Template.Positional
import MessageTemplate.Template.Pairs
/-! What a compiled template renders as, read off the named template. -/
namespace MessageTemplate.Template

open Composite

/-- Literal text as it reads: `{{` and `}}` stand for one brace each. -/
def unescape : List Char → List Char
  | '{' :: '{' :: r => '{' :: unescape r
  | '}' :: '}' :: r => '}' :: unescape r
  | c :: r => c :: unescape r
  | [] => []

/-- The text a named template reads as when each name stands for `text name`: literal text
with doubled braces undoubled, and each placeholder replaced by its name's text padded to its
alignment. With `absorb`, the closing braces right after a placeholder with a format belong to
that format and are no text; `skip` says that the previous placeholder has one. -/
def readingFrom (text : String → String) (absorb : Bool) :
    Bool → List Placeholder → List Char → List Char
  | skip, [], tail => unescape (trimIf skip tail)
  | skip, p :: phs, tail =>
    unescape (trimIf skip p.lead) ++ (pad (text p.name) (alignmentOf p.suffix)).toList ++
      readingFrom text absorb (absorb && hasFormat p.suffix) phs tail

/-- The text a named template reads as, its placeholders as the compiler matches them. -/
def reading (text : String → String) (absorb : Bool) (raw : String) : String :=
  String.ofList (readingFrom text absorb false (parts raw.toList).1 (parts raw.toList).2)

/-- The text a name of a template stands for with values: the text of its value, coerced. -/
def boundText (t : Template) (values : List Value) (name : String) : String :=
  (values.getD (t.names.idxOf name) .null).coerce.display

theorem unescape_spellTokens (ts : List Token) : unescape (spellTokens ts) = ts.map Token.char := by
  induction ts with
  | nil => rfl
  | cons t ts ih =>
    rcases t with (c | _ | _)
    case plain ho hc =>
      rw [spellTokens_cons, Token.spell, List.singleton_append,
        unescape.eq_3 _ _ (fun _ h => absurd h ho) (fun _ h => absurd h hc), ih]
      rfl
    all_goals simp [Token.spell, unescape, ih, Token.char]

theorem toList_join_chars (ts : List Token) :
    (String.join (ts.map fun t => String.singleton t.char)).toList = ts.map Token.char := by
  induction ts with
  | nil => rfl
  | cons t ts ih => simp [String.join_cons, ih]

section
variable {args : List Value}

theorem forall₂_tokens {ts : List Token} {ps : List Piece} {outs : List String}
    (h : List.Forall₂ (Piece.Renders args Value.formatWith) (ts.map .token ++ ps) outs) :
    ∃ outs', outs = ts.map (fun t => String.singleton t.char) ++ outs' ∧
      List.Forall₂ (Piece.Renders args Value.formatWith) ps outs' := by
  induction ts generalizing outs with
  | nil => exact ⟨outs, rfl, h⟩
  | cons t ts ih =>
    rcases h with _ | ⟨ht, h⟩
    cases ht
    obtain ⟨outs', rfl, h'⟩ := ih h
    exact ⟨outs', rfl, h'⟩

/-- Rendering the pieces read from numbered text gives its reading, where every placeholder's
name has a text value. -/
theorem readingFrom_of_readsAs {names : List String} {skip : Bool} {ps : List Piece}
    {phs : List Placeholder} {tail : List Char} (h : ReadsAs names skip ps phs tail)
    {text : String → String}
    (htext : ∀ p ∈ phs, args[names.idxOf p.name]? = some (.str (text p.name)))
    {outs : List String} (hr : List.Forall₂ (Piece.Renders args Value.formatWith) ps outs) :
    (String.join outs).toList = readingFrom text true skip phs tail := by
  induction h generalizing outs with
  | @tail skip ts tail hts =>
    have hr0 : List.Forall₂ (Piece.Renders args Value.formatWith) (ts.map .token ++ []) outs := by
      simpa using hr
    obtain ⟨outs', rfl, hr'⟩ := forall₂_tokens hr0
    cases hr'
    rw [List.append_nil, toList_join_chars, readingFrom, ← hts, unescape_spellTokens]
  | @item skip ts it ps p phs tail hts hidx hal _ _ ih =>
    obtain ⟨outs', rfl, hr'⟩ := forall₂_tokens hr
    rcases hr' with _ | ⟨hitem, hr'⟩
    -- the item's argument is the text of the placeholder's name
    cases hitem with
    | item it a s _ harg hformat =>
      rw [hidx, htext p List.mem_cons_self, Option.some.injEq] at harg
      subst harg
      cases hformat
      have hrest := ih (fun q hq => htext q (List.mem_cons_of_mem p hq)) hr'
      simp only [String.join_append, String.join_cons, String.toList_append, hrest, readingFrom,
        ← hts, unescape_spellTokens, ItemText.toItem, hal, Bool.true_and, toList_join_chars,
        List.append_assoc]

end

theorem getElem?_coerce_of_mem_parts {raw : String} {values : List Value}
    (hstr : ∀ v ∈ values, ∃ s, v.coerce = .str s)
    (hlen : (compile raw).names.length ≤ values.length) {p : Placeholder}
    (hp : p ∈ (parts raw.toList).1) :
    (values.map Value.coerce)[(compile raw).names.idxOf p.name]? =
      some (.str (boundText (compile raw) values p.name)) := by
  have hlt : (compile raw).names.idxOf p.name < values.length :=
    Nat.lt_of_lt_of_le (List.idxOf_lt_length_of_mem (mem_names_of_mem_parts hp)) hlen
  obtain ⟨s, hs⟩ := hstr _ (List.getElem_mem hlt)
  simp [boundText, hlt, hs, Value.display]

/-- A compiled template that renders with text values writes its named reading, with each
format taking the doubled closing braces right after its placeholder. -/
theorem render_eq_reading (raw : String) (values : List Value) (out : String)
    (hstr : ∀ v ∈ values, ∃ s, v.coerce = .str s)
    (hlen : (compile raw).names.length ≤ values.length)
    (h : (compile raw).render values = .ok out) :
    out = reading (boundText (compile raw) values) true raw := by
  obtain ⟨ps, outs, htext, hc, hr, rfl⟩ := (format_eq_ok_iff _ _ _).mp h
  rw [reading, ← readingFrom_of_readsAs (readsAs_of_compile htext hc)
    (fun p hp => getElem?_coerce_of_mem_parts hstr hlen hp) hr, String.ofList_toList]

theorem render_eq_reading_aligned :
    (∀ v ∈ [Value.str "v", .str "w"], ∃ s, v.coerce = .str s) ∧
      (compile "\x7bA,5:x\x7d\x7d\x7d\x7bB\x7d").names.length ≤ 2 ∧
      (compile "\x7bA,5:x\x7d\x7d\x7d\x7bB\x7d").render [.str "v", .str "w"] = .ok "    vw" ∧
      "    vw" = reading (boundText (compile "\x7bA,5:x\x7d\x7d\x7d\x7bB\x7d")
        [.str "v", .str "w"]) true "\x7bA,5:x\x7d\x7d\x7d\x7bB\x7d" := by
  have hstr : ∀ v ∈ [Value.str "v", .str "w"], ∃ s, v.coerce = .str s := by
    intro v hv
    simp only [List.mem_cons, List.not_mem_nil, or_false] at hv
    rcases hv with rfl | rfl <;> exact ⟨_, rfl⟩
  have hlen : (compile "\x7bA,5:x\x7d\x7d\x7d\x7bB\x7d").names.length ≤ 2 := by decide +kernel
  have h : (compile "\x7bA,5:x\x7d\x7d\x7d\x7bB\x7d").render [.str "v", .str "w"] =
      .ok "    vw" := by
    decide +kernel
  exact ⟨hstr, hlen, h, render_eq_reading _ _ _ hstr hlen h⟩

/-- The doubled closing braces after a placeholder with a format are no text: the value alone is
written where the plain reading has a closing brace after it. -/
theorem render_ne_plain_reading :
    (compile "\x7bA:x\x7d\x7d\x7d").render [.str "v"] = .ok "v" ∧
      reading (boundText (compile "\x7bA:x\x7d\x7d\x7d") [.str "v"]) false
        "\x7bA:x\x7d\x7d\x7d" = "v\x7d" := by
  constructor <;> decide +kernel

section
variable {args : List Value}

theorem lt_length_of_renders {ps : List Piece} {outs : List String}
    (hr : List.Forall₂ (Piece.Renders args Value.formatWith) ps outs) {it : ItemText}
    (hit : .item it ∈ ps) : it.index.value < args.length := by
  induction hr with
  | nil => simp at hit
  | cons hp _ ih =>
    rcases List.mem_cons.mp hit with rfl | hit
    · cases hp with
      | item it a s _ harg _ => exact (List.getElem?_eq_some_iff.mp harg).1
    · exact ih hit

theorem forall₂_renders_of_texts {ps : List Piece} {outs : List String}
    (hr : List.Forall₂ (Piece.Renders args Value.formatWith) ps outs) (args' : List Value)
    (h : ∀ it, .item it ∈ ps → ∃ s, args'[it.index.value]? = some (.str s)) :
    ∃ outs', List.Forall₂ (Piece.Renders args' Value.formatWith) ps outs' := by
  induction hr with
  | nil => exact ⟨[], .nil⟩
  | @cons p o ps outs hp _ ih =>
    obtain ⟨outs', hr'⟩ := ih fun it hit => h it (List.mem_cons_of_mem p hit)
    cases hp with
    | token t => exact ⟨_, .cons (.token t) hr'⟩
    | item it a text hb _ _ =>
      obtain ⟨s, hs⟩ := h it List.mem_cons_self
      exact ⟨_, .cons (.item it (.str s) s hb hs rfl) hr'⟩

theorem forall₂_renders_congr {ps : List Piece} {outs : List String}
    (hr : List.Forall₂ (Piece.Renders args Value.formatWith) ps outs) (args' : List Value)
    (h : ∀ it, .item it ∈ ps → args'[it.index.value]? = args[it.index.value]?) :
    List.Forall₂ (Piece.Renders args' Value.formatWith) ps outs := by
  induction hr with
  | nil => exact .nil
  | @cons p o ps outs hp _ ih =>
    have hr' := ih fun it hit => h it (List.mem_cons_of_mem p hit)
    cases hp with
    | token t => exact .cons (.token t) hr'
    | item it a text hb harg hf =>
      exact .cons (.item it a text hb ((h it List.mem_cons_self).trans harg) hf) hr'

end

/-- Rendering reads only the values of the template's names that it was given: values that
agree with them there render the same. -/
theorem render_congr {raw : String} {values values' : List Value} {out : String}
    (h : (compile raw).render values = .ok out)
    (hv : ∀ i < (compile raw).names.length, i < values.length → values'[i]? = values[i]?) :
    (compile raw).render values' = .ok out := by
  obtain ⟨ps, outs, htext, hc, hr, rfl⟩ := (format_eq_ok_iff _ _ _).mp h
  refine (format_eq_ok_iff _ _ _).mpr
    ⟨ps, outs, htext, hc, forall₂_renders_congr hr _ fun it hit => ?_, rfl⟩
  -- an item is numbered below the count of names, and it found its argument
  have hn := index_lt_of_compile htext hc hit
  have hl := lt_length_of_renders hr hit
  rw [List.length_map] at hl
  simp only [List.getElem?_map, hv _ hn hl]

theorem validate_eq_ok_iff (raw : String) :
    validate raw = .ok () ↔
      ∃ out, (compile raw).render ((compile raw).names.map fun _ => .null) = .ok out := by
  unfold validate
  dsimp only
  cases h : (compile raw).render ((compile raw).names.map fun _ => .null) with
  | ok out => exact ⟨fun _ => ⟨out, rfl⟩, fun _ => rfl⟩
  | error e =>
    constructor
    · intro hv
      cases hv
    · rintro ⟨out, hout⟩
      cases hout

/-- A template renders with values that are all text exactly when there is a value for every
name and it renders with every value empty: the items read from its positional form are the
placeholders the compiler wrote, so they are numbered below the count of names and every name
has one. -/
theorem render_ok_iff (raw : String) (values : List Value)
    (hstr : ∀ v ∈ values, ∃ s, v.coerce = .str s) :
    (∃ out, (compile raw).render values = .ok out) ↔
      (compile raw).names.length ≤ values.length ∧ validate raw = .ok () := by
  rw [validate_eq_ok_iff]
  constructor
  · rintro ⟨out, h⟩
    obtain ⟨ps, outs, htext, hc, hr, -⟩ := (format_eq_ok_iff _ _ _).mp h
    refine ⟨?_, ?_⟩
    · -- the last name is an item's number, and that item has an argument
      cases hn : (compile raw).names.length with
      | zero => exact Nat.zero_le _
      | succ n =>
        obtain ⟨it, hit, hidx⟩ := exists_item_of_compile htext hc (j := n) (by omega)
        have hlt := lt_length_of_renders hr hit
        rw [hidx, List.length_map] at hlt
        omega
    · -- every item is numbered below the count of names, where an empty value is `(null)`
      obtain ⟨outs', hr'⟩ := forall₂_renders_of_texts hr
        (((compile raw).names.map fun _ => Value.null).map Value.coerce) fun it hit =>
          ⟨nullText, by simp [index_lt_of_compile htext hc hit, Value.coerce]⟩
      exact ⟨_, (format_eq_ok_iff _ _ _).mpr ⟨ps, outs', htext, hc, hr', rfl⟩⟩
  · rintro ⟨hlen, out, h⟩
    obtain ⟨ps, outs, htext, hc, hr, -⟩ := (format_eq_ok_iff _ _ _).mp h
    -- every item has an empty value, so a name, and so a text value
    obtain ⟨outs', hr'⟩ := forall₂_renders_of_texts hr (values.map Value.coerce) fun it hit => by
      have hlt := lt_length_of_renders hr hit
      simp only [List.length_map] at hlt
      obtain ⟨s, hs⟩ := hstr _ (List.getElem_mem (Nat.lt_of_lt_of_le hlt hlen))
      exact ⟨s, by simp [Nat.lt_of_lt_of_le hlt hlen, hs]⟩
    exact ⟨_, (format_eq_ok_iff _ _ _).mpr ⟨ps, outs', htext, hc, hr', rfl⟩⟩

theorem render_ok_iff_two_names :
    (∀ v ∈ [Value.str "a", .null], ∃ s, v.coerce = .str s) ∧
      ((∃ out, (compile "\x7bA\x7d\x7bB\x7d").render [.str "a", .null] = .ok out) ↔
        (compile "\x7bA\x7d\x7bB\x7d").names.length ≤ 2 ∧
          validate "\x7bA\x7d\x7bB\x7d" = .ok ()) := by
  have hstr : ∀ v ∈ [Value.str "a", .null], ∃ s, v.coerce = .str s := by
    intro v hv
    simp only [List.mem_cons, List.not_mem_nil, or_false] at hv
    rcases hv with rfl | rfl <;> exact ⟨_, rfl⟩
  exact ⟨hstr, render_ok_iff _ _ hstr⟩

end MessageTemplate.Template
