import MessageTemplate.Proofs.Template.Placeholders
import MessageTemplate.Proofs.Composite.Accepts
/-! Composite pieces against text whose braces come in runs. -/
namespace MessageTemplate

namespace Template

/-- The alignment a placeholder's suffix gives: the number after `,` and blanks, negative after
`-`; 0 when the suffix does not start with `,`. -/
def alignmentOf : List Char → Int
  | ',' :: r =>
    let r := r.dropWhile (· = ' ')
    if r.head? = some '-' then -(Composite.digitsValue 0 (r.tail.takeWhile Char.isDigit) : Int)
    else Composite.digitsValue 0 (r.takeWhile Char.isDigit)
  | _ => 0

/-- Whether a placeholder's suffix has a format. -/
def hasFormat (suffix : List Char) : Bool := suffix.contains ':'

/-- Text without its leading closing braces when `skip` holds. -/
def trimIf (skip : Bool) (cs : List Char) : List Char :=
  if skip then cs.dropWhile (· = '}') else cs

theorem trimIf_append_open (skip : Bool) (lead post : List Char) :
    trimIf skip (lead ++ '{' :: post) = trimIf skip lead ++ '{' :: post := by
  cases skip with
  | false => rfl
  | true =>
    induction lead with
    | nil => simp [trimIf]
    | cons c lead ih =>
      by_cases hc : c = '}'
      · simpa [trimIf, hc] using ih
      · simp [trimIf, hc]

theorem Paired.trim {skip : Bool} {cs : List Char} (h : Paired '{' cs) :
    Paired '{' (trimIf skip cs) := by
  cases skip with
  | false => exact h
  | true =>
    induction cs with
    | nil => exact .nil
    | cons c cs ih =>
      by_cases hc : c = '}'
      · subst hc
        simpa [trimIf] using ih (h.of_cons (by decide))
      · simpa [trimIf, hc] using h

theorem Unmatched.trim {skip : Bool} {cs : List Char} (h : Unmatched cs) :
    Unmatched (trimIf skip cs) := by
  rcases h with h | ⟨lead, post, rfl, hl, hhead, hpost, hlast⟩
  · exact .inl h.trim
  · exact .inr ⟨trimIf skip lead, post, trimIf_append_open skip lead post, hl.trim, hhead, hpost,
      hlast⟩

end Template

namespace Composite
open Template

theorem mem_spellAlignment {c : Char} {al : Option AlignmentText} (h : c ∈ spellAlignment al) :
    c = ',' ∨ c = ' ' ∨ c = '-' ∨ c.isDigit := by
  cases al with
  | none => simp [spellAlignment] at h
  | some a =>
    have hw := a.width.all_digit c
    simp only [spellAlignment, blanks, List.mem_cons, List.mem_append, List.mem_replicate] at h
    split at h <;> simp at h <;> grind

theorem close_not_mem_spellAlignment (al : Option AlignmentText) : '}' ∉ spellAlignment al :=
  fun h => by rcases mem_spellAlignment h with h | h | h | h <;> simp_all

theorem colon_not_mem_spellAlignment (al : Option AlignmentText) : ':' ∉ spellAlignment al :=
  fun h => by rcases mem_spellAlignment h with h | h | h | h <;> simp_all

theorem Token.paired_close (t : Token) : Paired '}' t.spell := by
  cases t with
  | plain c _ hc => exact .single hc .nil
  | openBrace => exact .single (by decide) (.single (by decide) .nil)
  | closeBrace => exact .double .nil

theorem paired_spellTokens (ts : List Token) : Paired '}' (spellTokens ts) := by
  induction ts with
  | nil => exact .nil
  | cons t ts ih => exact t.paired_close.append ih

/-- An item is written as text paired in `}` and its closing brace. -/
theorem ItemText.spell_eq_paired (it : ItemText) :
    ∃ body, it.spell = body ++ ['}'] ∧ Paired '}' body := by
  have hdigits : ∀ c ∈ it.index.digits, c ≠ '}' := by
    intro c hc hclose
    have := it.index.all_digit c hc
    simp [hclose] at this
  have hblanks : ∀ c ∈ Composite.blanks it.blanks, c ≠ '}' := by
    intro c hc
    simp_all [Composite.blanks]
  have hformat : Paired '}' (spellFormat it.format) := by
    cases it.format with
    | none => exact .nil
    | some ts => exact .single (by decide) (paired_spellTokens ts)
  exact ⟨_, rfl, (((Paired.of_forall_ne hdigits).append (Paired.of_forall_ne hblanks)).append
    (Paired.of_forall_ne fun c hc h => close_not_mem_spellAlignment _ (h ▸ hc))).append hformat⟩

theorem ItemText.spell_head (it : ItemText) : ∃ d r, it.spell = d :: r ∧ d.isDigit := by
  obtain ⟨d, ds, hd⟩ := List.exists_cons_of_ne_nil it.index.ne_nil
  refine ⟨d, ds ++ Composite.blanks it.blanks ++ spellAlignment it.alignment ++ spellFormat it.format ++ ['}'],
    by simp [ItemText.spell, hd], it.index.all_digit d (by simp [hd])⟩

theorem eq_closeBrace_of_spellPieces {p : Piece} {ps : List Piece} {ys : List Char}
    (h : spellPieces (p :: ps) = '}' :: ys) :
    p = .token .closeBrace ∧ ys = '}' :: spellPieces ps := by
  rcases p with ((c | _ | _) | it) <;> simp_all [Piece.spell, Token.spell]

/-- A piece spelling the start of text paired in `{`, followed by anything but `}`, is a token
and leaves text paired in `{`. -/
theorem token_prefix {p : Piece} {ps : List Piece} {c : Char} {lead rest : List Char}
    (h : spellPieces (p :: ps) = c :: lead ++ rest) (hl : Paired '{' (c :: lead))
    (hr : ∀ d ∈ rest.head?, d ≠ '}') :
    ∃ t lead', p = .token t ∧ c :: lead = t.spell ++ lead' ∧ Paired '{' lead' ∧
      spellPieces ps = lead' ++ rest := by
  rcases p with ((d | _ | _) | it)
  case token.plain hd _ =>
    simp only [spellPieces_cons, Piece.spell, Token.spell, List.cons_append,
      List.cons.injEq] at h
    obtain ⟨rfl, h⟩ := h
    exact ⟨_, lead, rfl, rfl, hl.of_cons hd, h⟩
  case token.openBrace =>
    simp only [spellPieces_cons, Piece.spell, Token.spell, List.cons_append, List.nil_append,
      List.cons.injEq] at h
    obtain ⟨rfl, h⟩ := h
    obtain ⟨lead', rfl, hl'⟩ := hl.of_brace
    simp only [List.cons_append, List.cons.injEq, true_and] at h
    exact ⟨_, lead', rfl, rfl, hl', h⟩
  case token.closeBrace =>
    simp only [spellPieces_cons, Piece.spell, Token.spell, List.cons_append, List.nil_append,
      List.cons.injEq] at h
    obtain ⟨rfl, h⟩ := h
    cases lead with
    | nil =>
      rw [List.nil_append] at h
      exact absurd rfl (hr '}' (by rw [← h]; rfl))
    | cons d lead' =>
      simp only [List.cons_append, List.cons.injEq] at h
      obtain ⟨rfl, h⟩ := h
      exact ⟨_, lead', rfl, rfl, (hl.of_cons (by decide)).of_cons (by decide), h⟩
  case item =>
    simp only [spellPieces_cons, Piece.spell, List.cons_append, List.cons.injEq] at h
    obtain ⟨rfl, h⟩ := h
    obtain ⟨lead', rfl, -⟩ := hl.of_brace
    obtain ⟨e, r, he, hdigit⟩ := it.spell_head
    rw [he] at h
    simp only [List.cons_append, List.cons.injEq] at h
    simp [h.1] at hdigit

/-- Pieces that spell text paired in `{`, followed by anything but `}`, spell that text with
tokens. -/
theorem tokens_of_spellPieces {ps : List Piece} {lead rest : List Char}
    (h : spellPieces ps = lead ++ rest) (hl : Paired '{' lead) (hr : ∀ c ∈ rest.head?, c ≠ '}') :
    ∃ ts ps', ps = ts.map .token ++ ps' ∧ spellTokens ts = lead ∧ spellPieces ps' = rest := by
  induction ps generalizing lead with
  | nil =>
    obtain ⟨rfl, rfl⟩ := List.append_eq_nil_iff.mp h.symm
    exact ⟨[], [], rfl, rfl, rfl⟩
  | cons p ps ih =>
    cases lead with
    | nil => exact ⟨[], p :: ps, rfl, rfl, h⟩
    | cons c lead =>
      obtain ⟨t, lead', rfl, hlead, hl', hps⟩ := token_prefix h hl hr
      obtain ⟨ts, ps', rfl, hts, hps'⟩ := ih hps hl'
      exact ⟨t :: ts, ps', rfl, by simp [hlead, hts], hps'⟩

/-- A closing brace followed by text paired in `}` that ends in another character starts no
pieces: the last brace of that text is left alone. -/
theorem spellPieces_ne_close {xs : List Char} (hx : Paired '}' xs) (hne : xs ≠ [])
    (hl : ∀ c ∈ xs.getLast?, c ≠ '}') (ps : List Piece) (zs : List Char) :
    spellPieces ps ≠ '}' :: (xs ++ zs) := by
  induction hx generalizing ps with
  | nil => exact absurd rfl hne
  | @single c xs hc _ _ =>
    intro h
    cases ps with
    | nil => simp at h
    | cons p ps =>
      have := (eq_closeBrace_of_spellPieces h).2
      simp only [List.cons_append, List.cons.injEq] at this
      exact hc this.1
  | @double xs _ ih =>
    intro h
    cases ps with
    | nil => simp at h
    | cons p ps =>
      obtain ⟨y, ys, rfl⟩ : ∃ y ys, xs = y :: ys := by
        cases xs with
        | nil => simp at hl
        | cons y ys => exact ⟨y, ys, rfl⟩
      have := (eq_closeBrace_of_spellPieces h).2
      simp only [List.cons_append, List.cons.injEq, true_and] at this
      exact ih (List.cons_ne_nil y ys) (by simpa only [List.getLast?_cons_cons] using hl) ps
        this.symm

/-- A format that reaches a run of closing braces ending before another character takes all but
the last brace of the run, which is then odd. -/
theorem run_extent {ts : List Token} {zs ys : List Char} {n : Nat}
    (h : spellTokens ts ++ '}' :: zs = List.replicate (n + 1) '}' ++ ys)
    (hy : ∀ c ∈ ys.head?, c ≠ '}') (hz : ∀ c ∈ zs.head?, c ≠ '}') (hn : n % 2 = 0 ∨ ys = []) :
    zs = ys := by
  induction ts generalizing n with
  | nil =>
    simp only [spellTokens_nil, List.nil_append, List.replicate_succ, List.cons_append,
      List.cons.injEq, true_and] at h
    cases n with
    | zero => simpa using h
    | succ n => exact absurd rfl (hz '}' (by simp [h, List.replicate_succ]))
  | cons t ts ih =>
    rcases t with (c | _ | _)
    case plain hc =>
      simp only [spellTokens_cons, Token.spell, List.replicate_succ, List.cons_append,
        List.nil_append, List.cons.injEq] at h
      exact absurd h.1 hc
    case openBrace => simp [Token.spell, List.replicate_succ] at h
    case closeBrace =>
      -- `}}` takes two braces of the run
      simp only [spellTokens_cons, Token.spell, List.replicate_succ, List.cons_append,
        List.nil_append, List.cons.injEq, true_and] at h
      rcases n with _ | _ | n
      · rw [List.replicate_zero, List.nil_append] at h
        exact absurd rfl (hy '}' (by rw [← h]; rfl))
      · simp only [List.replicate_succ, List.replicate_zero, List.cons_append, List.nil_append,
          List.cons.injEq, true_and] at h
        have hys : ys = [] := hn.resolve_left (by omega)
        simp [hys] at h
      · rw [List.replicate_succ, List.cons_append, List.cons.injEq] at h
        exact ih h.2 (hn.imp_left fun h => by omega)

/-- A format that starts in a placeholder's suffix and reaches the brace closing the
placeholder ends with the run of that brace. -/
theorem format_extent {ts : List Token} {zs rs ys : List Char} {m : Nat}
    (h : spellTokens ts ++ '}' :: zs = rs ++ '}' :: (List.replicate m '}' ++ ys))
    (hr : Paired '}' rs) (hrl : ∀ c ∈ rs.getLast?, c ≠ '}')
    (hy : ∀ c ∈ ys.head?, c ≠ '}') (hz : ∀ c ∈ zs.head?, c ≠ '}') (hm : m % 2 = 0 ∨ ys = []) :
    zs = ys := by
  induction ts generalizing rs with
  | nil =>
    cases rs with
    | nil =>
      rw [List.nil_append, ← List.cons_append, ← List.replicate_succ] at h
      exact run_extent h hy hz hm
    | cons c rs =>
      simp only [spellTokens_nil, List.nil_append, List.cons_append, List.cons.injEq] at h
      obtain ⟨rfl, rfl⟩ := h
      obtain ⟨rs', rfl, -⟩ := hr.of_brace
      exact absurd rfl (hz '}' (by simp))
  | cons t ts ih =>
    cases rs with
    | nil =>
      rw [List.nil_append, ← List.cons_append, ← List.replicate_succ] at h
      exact run_extent h hy hz hm
    | cons c rs =>
      rcases t with (d | _ | _)
      case plain hd =>
        simp only [spellTokens_cons, Token.spell, List.cons_append, List.nil_append,
          List.cons.injEq] at h
        obtain ⟨rfl, h⟩ := h
        exact ih h (hr.of_cons hd) (getLast?_of_append [_] hrl)
      case openBrace =>
        simp only [spellTokens_cons, Token.spell, List.cons_append, List.nil_append,
          List.cons.injEq] at h
        obtain ⟨rfl, h⟩ := h
        cases rs with
        | nil => simp at h
        | cons e rs =>
          simp only [List.cons_append, List.cons.injEq] at h
          obtain ⟨rfl, h⟩ := h
          exact ih h ((hr.of_cons (by decide)).of_cons (by decide))
            (getLast?_of_append [_, _] hrl)
      case closeBrace =>
        simp only [spellTokens_cons, Token.spell, List.cons_append, List.nil_append,
          List.cons.injEq] at h
        obtain ⟨rfl, h⟩ := h
        obtain ⟨rs', rfl, hr'⟩ := hr.of_brace
        simp only [List.cons_append, List.cons.injEq, true_and] at h
        exact ih h hr' (getLast?_of_append [_, _] hrl)

/-- Two runs of digits that each end a text's digits at its start are the same. -/
theorem digits_unique {xs ys a b : List Char} (h : xs ++ a = ys ++ b)
    (hx : ∀ c ∈ xs, c.isDigit) (hy : ∀ c ∈ ys, c.isDigit)
    (ha : ∀ c ∈ a.head?, c.isDigit = false) (hb : ∀ c ∈ b.head?, c.isDigit = false) :
    xs = ys ∧ a = b := by
  induction xs generalizing ys with
  | nil =>
    cases ys with
    | nil => exact ⟨rfl, h⟩
    | cons y ys =>
      rw [List.nil_append] at h
      have := ha y (by simp [h])
      simp_all
  | cons x xs ih =>
    cases ys with
    | nil =>
      rw [List.nil_append] at h
      have := hb x (by simp [← h])
      simp_all
    | cons y ys =>
      simp only [List.cons_append, List.cons.injEq] at h
      obtain ⟨rfl, h⟩ := h
      obtain ⟨rfl, rfl⟩ := ih h (fun c hc => hx c (List.mem_cons_of_mem x hc))
        (fun c hc => hy c (List.mem_cons_of_mem x hc))
      exact ⟨rfl, rfl⟩

theorem takeWhile_isDigit_append {ds rest : List Char} (hd : ∀ c ∈ ds, c.isDigit)
    (hr : ∀ c ∈ rest.head?, c.isDigit = false) : (ds ++ rest).takeWhile Char.isDigit = ds := by
  induction ds with
  | nil =>
    cases rest with
    | nil => rfl
    | cons c rest => simp [hr c rfl]
  | cons d ds ih =>
    rw [List.cons_append, List.takeWhile_cons_of_pos (hd d List.mem_cons_self),
      ih fun c hc => hd c (List.mem_cons_of_mem d hc)]

/-- A suffix reads back the alignment written at its start. -/
theorem alignmentOf_spell (al : Option AlignmentText) {rest : List Char}
    (hr : EndsAlignment rest) : alignmentOf (spellAlignment al ++ rest) = alignmentValue al := by
  cases al with
  | none =>
    cases rest with
    | nil => rfl
    | cons c rest =>
      rw [spellAlignment, List.nil_append, alignmentOf.eq_2 _ (by simpa using (hr c rfl).2.1)]
      rfl
  | some a =>
    have hwidth : (a.width.digits ++ blanks a.trailing ++ rest).takeWhile Char.isDigit =
        a.width.digits := by
      rw [List.append_assoc]
      refine takeWhile_isDigit_append a.width.all_digit ?_
      cases a.trailing with
      | zero => simpa [blanks] using fun c hc => (hr c hc).2.2
      | succ k => simp [blanks, List.replicate_succ]
    obtain ⟨d, ds, hd⟩ := List.exists_cons_of_ne_nil a.width.ne_nil
    have hdigit := a.width.all_digit d (by simp [hd])
    have hsign : ∀ c ∈ ((if a.negative then ['-'] else []) ++ a.width.digits ++
        blanks a.trailing ++ rest).head?, c ≠ ' ' := by
      intro c hc
      split at hc <;> simp [hd] at hc <;> rintro rfl <;> simp_all
    have hskip := congrArg Prod.fst (skipSpaces_blanks a.leading _ hsign)
    simp only [skipSpaces] at hskip
    simp only [spellAlignment, alignmentOf, List.cons_append, List.append_assoc] at hskip ⊢
    rw [hskip, alignmentValue, Numeral.value]
    cases a.negative with
    | true => simp [← List.append_assoc, hwidth]
    | false =>
      have hhead : (a.width.digits ++ (blanks a.trailing ++ rest)).head? ≠ some '-' := by
        rintro h
        simp [hd] at h
        simp [h] at hdigit
      simp only [Bool.false_eq_true, if_false, List.nil_append, if_neg hhead]
      rw [← List.append_assoc, hwidth]

theorem prefix_of_close_not_mem {as xs ss rest : List Char} (h : as ++ xs = ss ++ '}' :: rest)
    (ha : '}' ∉ as) : ∃ rs, ss = as ++ rs ∧ xs = rs ++ '}' :: rest := by
  rcases List.append_eq_append_iff.mp h with ⟨a', rfl, rfl⟩ | ⟨c', rfl, h'⟩
  · exact ⟨a', rfl, rfl⟩
  · cases c' with
    | nil => exact ⟨[], by simp, by simpa using h'.symm⟩
    | cons c c' =>
      simp only [List.cons_append, List.cons.injEq] at h'
      exact absurd (List.mem_append_right ss (h'.1 ▸ List.mem_cons_self)) ha

theorem spellPieces_ne_after_close {text pre rest : List Char} (ht : Paired '}' text)
    (hl : ∀ c ∈ text.getLast?, c ≠ '}') (hp : Paired '}' pre) (h : text = pre ++ '}' :: rest)
    (ps : List Piece) (zs : List Char) : spellPieces ps ≠ rest ++ zs := by
  subst h
  obtain ⟨r1, rfl, hr1⟩ := (hp.of_append ht).of_brace
  have hne : r1 ≠ [] := by
    rintro rfl
    simp at hl
  have hl1 : ∀ c ∈ r1.getLast?, c ≠ '}' := getLast?_of_append (pre ++ ['}', '}']) (by simpa using hl)
  simpa using spellPieces_ne_close hr1 hne hl1 ps zs

theorem dropWhile_close_run (m : Nat) {ys : List Char} (hy : ∀ c ∈ ys.head?, c ≠ '}') :
    (List.replicate m '}' ++ ys).dropWhile (· = '}') = ys := by
  induction m with
  | zero =>
    cases ys with
    | nil => rfl
    | cons c ys => simp [hy c rfl]
  | succ m ih => simpa [List.replicate_succ] using ih

theorem head_after_index_not_digit (k : Nat) (al : Option AlignmentText)
    (f : Option (List Token)) (rest : List Char) :
    ∀ c ∈ (blanks k ++ spellAlignment al ++ spellFormat f ++ '}' :: rest).head?,
      c.isDigit = false := by
  rcases k with _ | k
  · rcases al with _ | a
    · rcases f with _ | ts <;> simp [blanks, spellAlignment, spellFormat]
    · simp [blanks, spellAlignment]
  · simp [blanks, List.replicate_succ]

/-- The item read at a placeholder of the numbered text has the placeholder's number and
alignment and a format exactly when the suffix has one; a format then takes the doubled closing
braces after the brace that closes the placeholder. -/
theorem item_of_numbered {it : ItemText} {ps : List Piece} {digits suffix rest ys : List Char}
    {m : Nat} (h : it.spell ++ spellPieces ps = digits ++ suffix ++ '}' :: rest)
    (hd : ∀ c ∈ digits, c.isDigit) (hs : ∀ c ∈ suffix.head?, c = ',' ∨ c = ':')
    (hsp : Paired '}' suffix) (hsl : ∀ c ∈ suffix.getLast?, c ≠ '}')
    (hrest : rest = List.replicate m '}' ++ ys) (hy : ∀ c ∈ ys.head?, c ≠ '}')
    (hm : m % 2 = 0 ∨ ys = [])
    (hgreedy : it.format.isSome → ∀ c ∈ (spellPieces ps).head?, c ≠ '}') :
    it.index.digits = digits ∧ alignmentValue it.alignment = alignmentOf suffix ∧
      it.format.isSome = hasFormat suffix ∧ spellPieces ps = trimIf (hasFormat suffix) rest := by
  have hafter : ∀ c ∈ (suffix ++ '}' :: rest).head?, c.isDigit = false := by
    cases suffix with
    | nil => simp
    | cons c s => rcases hs c rfl with rfl | rfl <;> simp
  -- the index is the run of digits both start with
  obtain ⟨hidx, h⟩ := digits_unique (by simpa [ItemText.spell] using h) it.index.all_digit hd
    (head_after_index_not_digit it.blanks it.alignment it.format _) hafter
  refine ⟨hidx, ?_⟩
  -- no blanks follow the index: the suffix starts with `,` or `:`, or is empty
  obtain ⟨-, h⟩ : it.blanks = 0 ∧ spellAlignment it.alignment ++
      (spellFormat it.format ++ '}' :: spellPieces ps) = suffix ++ '}' :: rest := by
    rcases hk : it.blanks with _ | k
    · simpa [hk, blanks] using h
    · cases suffix with
      | nil => simp [hk, blanks, List.replicate_succ] at h
      | cons c s =>
        simp only [hk, blanks, List.replicate_succ, List.cons_append, List.append_assoc,
          List.cons.injEq] at h
        rcases hs c rfl with rfl | rfl <;> simp at h
  obtain ⟨rs, rfl, hrs⟩ := prefix_of_close_not_mem h (close_not_mem_spellAlignment _)
  have hal : Paired '}' (spellAlignment it.alignment) :=
    Paired.of_forall_ne fun c hc hclose => close_not_mem_spellAlignment _ (hclose ▸ hc)
  rcases hf : it.format with _ | ts
  case none =>
    rw [hf, spellFormat, List.nil_append] at hrs
    cases rs with
    | nil =>
      simp only [List.nil_append, List.cons.injEq, true_and] at hrs
      refine ⟨(alignmentOf_spell _ (by simp [EndsAlignment])).symm, ?_, ?_⟩
      · simp [hasFormat, colon_not_mem_spellAlignment]
      · simp [hasFormat, colon_not_mem_spellAlignment, trimIf, hrs]
    | cons c rs =>
      -- the item would close inside the suffix, leaving a lone closing brace there
      simp only [List.cons_append, List.cons.injEq] at hrs
      obtain ⟨rfl, hrs⟩ := hrs
      exact absurd hrs (spellPieces_ne_after_close hsp hsl hal rfl ps _)
  case some =>
    rw [hf, spellFormat] at hrs
    cases rs with
    | nil => simp at hrs
    | cons c rs =>
      simp only [List.cons_append, List.cons.injEq] at hrs
      obtain ⟨rfl, hrs⟩ := hrs
      have hpaired : Paired '}' rs := (hal.of_append hsp).of_cons (by decide)
      have hz := format_extent (hrs.trans (by rw [hrest])) hpaired
        (getLast?_of_append (spellAlignment it.alignment ++ [':']) (by simpa using hsl)) hy
        (hgreedy (by simp [hf])) hm
      refine ⟨(alignmentOf_spell _ (by simp [EndsAlignment])).symm, ?_, ?_⟩
      · simp [hasFormat, colon_not_mem_spellAlignment]
      · simp [hasFormat, colon_not_mem_spellAlignment, trimIf, hrest, dropWhile_close_run m hy, hz]

theorem spellPieces_eq_nil {ps : List Piece} (h : spellPieces ps = []) : ps = [] := by
  cases ps with
  | nil => rfl
  | cons p ps =>
    obtain ⟨c, cs, hp⟩ := p.spell_eq_cons
    simp [hp] at h

/-- Pieces that spell text in which the compiler matched nothing are tokens: an item there
would start at an open brace with no closing brace that ends it. -/
theorem tokens_of_unmatched {ps : List Piece} {tail : List Char} (h : spellPieces ps = tail)
    (hu : Unmatched tail) (hc : ps.IsChain Piece.CanPrecede) :
    ∃ ts : List Token, ps = ts.map .token ∧ spellTokens ts = tail := by
  rcases hu with hp | ⟨lead, post, rfl, hl, hhead, hpost, hlast⟩
  · obtain ⟨ts, ps', rfl, hts, hps'⟩ :=
      tokens_of_spellPieces (h.trans (List.append_nil tail).symm) hp (by simp)
    exact ⟨ts, by simp [spellPieces_eq_nil hps'], hts⟩
  · obtain ⟨ts, ps', rfl, -, hps'⟩ := tokens_of_spellPieces h hl (by simp)
    exfalso
    cases ps' with
    | nil => simp at hps'
    | cons p ps' =>
      rcases p with ((c | _ | _) | it)
      case token.plain ho _ =>
        simp only [spellPieces_cons, Piece.spell, Token.spell, List.cons_append, List.cons.injEq]
          at hps'
        exact ho hps'.1
      case token.openBrace =>
        simp only [spellPieces_cons, Piece.spell, Token.spell, List.cons_append, List.nil_append,
          List.cons.injEq, true_and] at hps'
        exact hhead '{' (by simp [← hps']) rfl
      case token.closeBrace => simp [Piece.spell, Token.spell] at hps'
      case item =>
        simp only [spellPieces_cons, Piece.spell, List.cons_append, List.cons.injEq, true_and]
          at hps'
        obtain ⟨body, hbody, hpaired⟩ := it.spell_eq_paired
        rw [hbody, List.append_assoc, List.singleton_append] at hps'
        cases hf : it.format.isSome
        · exact spellPieces_ne_after_close hpost hlast hpaired hps'.symm ps' [] (by simp)
        · -- the format would run on over the doubled brace after the item
          obtain ⟨rest, hrest, -⟩ := (hpaired.of_append (hps' ▸ hpost)).of_brace
          exact head_spellPieces_ne_close (hc.right_of_append) (by simpa [Piece.hasFormat] using hf)
            '}' (by simp [hrest]) rfl

end Composite

end MessageTemplate
