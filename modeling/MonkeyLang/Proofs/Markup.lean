import MonkeyLang.Console.Markup
import Mathlib.Data.List.TakeWhile

/-!
Escaped text as markup. Escaping puts an odd number of backslashes before every tag, and it
changes nothing about where the brackets of a text stand to one another, so nothing in
escaped text is taken for a tag, whatever the text was.
-/

namespace MonkeyLang.Console

def notBracket (char : Char) : Bool :=
  char ≠ '[' && char ≠ ']'

theorem takeTag_cons (first : Char) (rest : List Char) :
    takeTag (first :: rest) =
      if opensTag first then
        match rest.dropWhile notBracket with
        | ']' :: behind => some (first :: rest.takeWhile notBracket, behind)
        | _ => none
      else none :=
  rfl

theorem takeTag_eq_none {first : Char} {rest : List Char} :
    takeTag (first :: rest) = none ↔
      opensTag first = true → (rest.dropWhile notBracket).head? ≠ some ']' := by
  rw [takeTag_cons]
  split
  · next opens =>
    split
    · next stop => simp [opens, stop]
    · next stop =>
      simp only [opens, true_iff, forall_const]
      intro bracket
      obtain ⟨behind, same⟩ := List.head?_eq_some_iff.mp bracket
      exact stop behind same
  · next closed => simp [closed]

/-- A tag ends at its first bracket. -/
theorem takeTag_eq_some {text inside behind : List Char}
    (found : takeTag text = some (inside, behind)) :
    ∃ first name, inside = first :: name ∧ text = inside ++ ']' :: behind ∧
      opensTag first = true ∧ ∀ char ∈ name, notBracket char = true := by
  cases text with
  | nil => cases found
  | cons first rest =>
      rw [takeTag_cons] at found
      split at found
      · next opens =>
        split at found
        · next stop =>
          cases found
          refine ⟨first, _, rfl, ?_, opens, fun char member => List.mem_takeWhile_imp member⟩
          rw [List.cons_append, ← stop, List.takeWhile_append_dropWhile]
        · cases found
      · cases found

theorem takeTag_append {first : Char} {name behind : List Char} (opens : opensTag first = true)
    (plain : ∀ char ∈ name, notBracket char = true) :
    takeTag (first :: name ++ ']' :: behind) = some (first :: name, behind) := by
  have stop : (name ++ ']' :: behind).dropWhile notBracket = ']' :: behind := by
    rw [List.dropWhile_append_of_pos plain]
    rfl
  have taken : (name ++ ']' :: behind).takeWhile notBracket = name := by
    rw [List.takeWhile_append_of_pos plain]
    simp [notBracket]
  rw [List.cons_append, takeTag_cons, if_pos opens, stop, taken]
  rfl

/-- No piece is a tag. -/
def Plain (pieces : List Piece) : Prop :=
  ∀ piece ∈ pieces, ∃ chars, piece = .text chars

theorem plain_cons {chars : List Char} {rest : List Piece} (others : Plain rest) :
    Plain (.text chars :: rest) :=
  List.forall_mem_cons.mpr ⟨⟨chars, rfl⟩, others⟩

theorem plain_text (chars : List Char) : Plain [.text chars] :=
  plain_cons fun _ member => absurd member List.not_mem_nil

section Showing
variable {stack : List OpenTag} {pieces : List Piece} {chars text : List Char}

theorem showPieces_text (shows : showPieces stack pieces = .ok text) :
    showPieces stack (.text chars :: pieces) = .ok (chars ++ text) := by
  rw [showPieces, shows]
  rfl

theorem showPieces_tag {tag : Tag} {after : List OpenTag} (follows : follow tag stack = .ok after)
    (shows : showPieces after pieces = .ok text) :
    showPieces stack (.tag tag :: pieces) = .ok text := by
  rw [showPieces, follows]
  exact shows

/-- Pieces without tags are shown as they are. -/
theorem showPieces_plain (plain : Plain pieces) : ∃ text, showPieces stack pieces = .ok text := by
  induction pieces with
  | nil => exact ⟨[], rfl⟩
  | cons piece rest ih =>
      obtain ⟨⟨chars, rfl⟩, others⟩ := List.forall_mem_cons.mp plain
      obtain ⟨text, shows⟩ := ih others
      exact ⟨chars ++ text, showPieces_text shows⟩

/-- The end of a style closes the style when that is the latest one. -/
theorem follow_end {name : List Char} (bare : Text.strip name = name) (named : name ≠ []) :
    follow ⟨'/' :: name, none⟩ (⟨Style.normalForm name, none⟩ :: stack) = .ok stack := by
  have occupied : name.isEmpty = false := List.isEmpty_eq_false_iff.mpr named
  have latest : takeOpen (Style.normalForm name) (⟨Style.normalForm name, none⟩ :: stack) =
      some (⟨Style.normalForm name, none⟩, stack) := if_pos rfl
  simp only [follow, bare, occupied, latest]
  rfl

end Showing

section Pieces
variable {pending : Nat} {rest : List Char}

theorem plain_backslashes {count : Nat}
    (plain : ∀ bound, Plain (piecesWithin bound (pending + count) rest)) (bound : Nat) :
    Plain (piecesWithin bound pending (backslashes count ++ rest)) := by
  induction count generalizing pending bound with
  | zero => exact plain bound
  | succ count ih =>
      cases bound with
      | zero => exact plain_text _
      | succ bound =>
          apply ih
          intro bound
          rw [Nat.add_assoc, Nat.add_comm 1 count]
          exact plain bound

theorem plain_end (bound : Nat) : Plain (piecesWithin bound pending []) := by
  cases bound <;> exact plain_text _

/-- The pieces of a text go on behind its first plain characters. -/
theorem plain_dropWhile (plain : ∀ bound, Plain (piecesWithin bound 0 rest)) (bound : Nat) :
    Plain (piecesWithin bound 0 (rest.dropWhile fun char => char ≠ '\\' && char ≠ '[')) := by
  cases rest with
  | nil => exact plain bound
  | cons char rest =>
      by_cases backslash : char = '\\'
      · subst backslash
        exact plain bound
      · by_cases bracket : char = '['
        · subst bracket
          exact plain bound
        · have pieces : piecesWithin (bound + 1) 0 (char :: rest) =
              .text (char :: rest.takeWhile fun char => char ≠ '\\' && char ≠ '[') ::
                piecesWithin bound 0 (rest.dropWhile fun char => char ≠ '\\' && char ≠ '[') := by
            rw [piecesWithin]
            · rfl
            · exact backslash
            · exact bracket
          have others := plain (bound + 1)
          rw [pieces] at others
          have first : (decide (char ≠ '\\') && decide (char ≠ '[')) = true := by
            simp [backslash, bracket]
          rw [List.dropWhile_cons, if_pos first]
          exact (List.forall_mem_cons.mp others).2

end Pieces

theorem dropWhile_backslashes (count : Nat) (rest : List Char) :
    (backslashes count ++ rest).dropWhile notBracket = rest.dropWhile notBracket := by
  apply List.dropWhile_append_of_pos
  intro char member
  rw [List.eq_of_mem_replicate member]
  rfl

section Escape
variable {bound pending : Nat} {rest inside behind : List Char}

theorem escapeWithin_tag (found : takeTag rest = some (inside, behind)) :
    escapeWithin (bound + 1) pending ('[' :: rest) =
      backslashes (2 * pending + 1) ++ '[' :: inside ++ ']' :: escapeWithin bound 0 behind := by
  simp only [escapeWithin, found]

theorem escapeWithin_bracket (found : takeTag rest = none) :
    escapeWithin (bound + 1) pending ('[' :: rest) =
      backslashes pending ++ '[' :: escapeWithin bound 0 rest := by
  simp only [escapeWithin, found]

theorem escapeWithin_plain {char : Char} (backslash : char ≠ '\\') (bracket : char ≠ '[') :
    escapeWithin (bound + 1) pending (char :: rest) =
      backslashes pending ++ char :: escapeWithin bound 0 rest := by
  rw [escapeWithin]
  · exact backslash
  · exact bracket

/-- Induction along a text as escaping goes through it, with enough of a bound. -/
theorem escape_induction {motive : ∀ (bound : Nat) (text : List Char), text.length ≤ bound → Prop}
    (ends : ∀ bound, motive bound [] (Nat.zero_le bound))
    (backslash : ∀ bound rest (enough : rest.length ≤ bound), motive bound rest enough →
      motive (bound + 1) ('\\' :: rest) (Nat.succ_le_succ enough))
    (tag : ∀ bound rest inside behind (enough : rest.length ≤ bound)
      (shorter : behind.length ≤ bound), takeTag rest = some (inside, behind) →
      motive bound behind shorter → motive (bound + 1) ('[' :: rest) (Nat.succ_le_succ enough))
    (bracket : ∀ bound rest (enough : rest.length ≤ bound), takeTag rest = none →
      motive bound rest enough → motive (bound + 1) ('[' :: rest) (Nat.succ_le_succ enough))
    (plain : ∀ bound char rest (enough : rest.length ≤ bound), char ≠ '\\' → char ≠ '[' →
      motive bound rest enough → motive (bound + 1) (char :: rest) (Nat.succ_le_succ enough))
    (bound : Nat) (text : List Char) (enough : text.length ≤ bound) : motive bound text enough := by
  induction bound generalizing text with
  | zero =>
      cases text with
      | nil => exact ends 0
      | cons char rest => cases enough
  | succ bound ih =>
      cases text with
      | nil => exact ends (bound + 1)
      | cons char rest =>
          have inner : rest.length ≤ bound := Nat.le_of_succ_le_succ enough
          by_cases is_backslash : char = '\\'
          · subst is_backslash
            exact backslash bound rest inner (ih rest inner)
          · by_cases is_bracket : char = '['
            · subst is_bracket
              cases found : takeTag rest with
              | none => exact bracket bound rest inner found (ih rest inner)
              | some split =>
                  rcases split with ⟨inside, behind⟩
                  obtain ⟨-, -, -, same, -⟩ := takeTag_eq_some found
                  have shorter : behind.length ≤ bound := by
                    rw [same] at inner
                    simp only [List.length_cons, List.length_append] at inner
                    omega
                  exact tag bound rest inside behind inner shorter found (ih behind shorter)
            · exact plain bound char rest inner is_backslash is_bracket (ih rest inner)

/-- The first bracket of a text stays the first one when the text is escaped. -/
theorem bracket_escapeWithin (bound : Nat) (text : List Char) (enough : text.length ≤ bound)
    (count pending : Nat) :
    ((escapeWithin bound pending text ++ backslashes count).dropWhile notBracket).head? =
      (text.dropWhile notBracket).head? := by
  induction bound, text, enough using escape_induction generalizing pending with
  | ends bound =>
      have bare : (backslashes count).dropWhile notBracket = [] := by
        simpa using dropWhile_backslashes count []
      cases bound <;> simp [escapeWithin, dropWhile_backslashes, bare]
  | backslash bound rest enough ih => exact ih (pending + 1)
  | tag bound rest inside behind enough shorter found _ =>
      rw [escapeWithin_tag found, List.append_assoc, List.append_assoc, dropWhile_backslashes]
      rfl
  | bracket bound rest enough found _ =>
      rw [escapeWithin_bracket found, List.append_assoc, dropWhile_backslashes]
      rfl
  | plain bound char rest enough backslash bracket ih =>
      rw [escapeWithin_plain backslash bracket, List.append_assoc, dropWhile_backslashes,
        List.cons_append, List.dropWhile_cons, List.dropWhile_cons]
      split
      · exact ih 0
      · rfl

theorem escapeWithin_pending (bound : Nat) (text : List Char) (enough : text.length ≤ bound)
    (pending : Nat) : ∃ more, escapeWithin bound (pending + 1) text = '\\' :: more := by
  induction bound, text, enough using escape_induction generalizing pending with
  | ends bound =>
      cases bound
      · exact ⟨backslashes pending ++ [], rfl⟩
      · exact ⟨backslashes pending, rfl⟩
  | backslash bound rest enough ih => exact ih (pending + 1)
  | tag bound rest inside behind enough shorter found _ =>
      rw [escapeWithin_tag found]
      exact ⟨_, rfl⟩
  | bracket bound rest enough found _ =>
      rw [escapeWithin_bracket found]
      exact ⟨_, rfl⟩
  | plain bound char rest enough backslash bracket _ =>
      rw [escapeWithin_plain backslash bracket]
      exact ⟨_, rfl⟩

/-- A bracket that opens no tag opens none in the escaped text. -/
theorem takeTag_escapeWithin {text : List Char} (found : takeTag text = none) {bound : Nat}
    (enough : text.length ≤ bound) (count : Nat) :
    takeTag (escapeWithin bound 0 text ++ backslashes count) = none := by
  cases text with
  | nil => cases bound <;> cases count <;> rfl
  | cons char rest =>
      obtain ⟨bound, rfl⟩ := Nat.exists_eq_add_one_of_ne_zero (Nat.ne_zero_of_lt enough)
      have shorter := Nat.le_of_succ_le_succ enough
      by_cases backslash : char = '\\'
      · subst backslash
        obtain ⟨more, escaped⟩ := escapeWithin_pending bound rest shorter 0
        show takeTag (escapeWithin bound 1 rest ++ backslashes count) = none
        rw [escaped]
        rfl
      · by_cases bracket : char = '['
        · subst bracket
          cases inner : takeTag rest with
          | none =>
              rw [escapeWithin_bracket inner]
              rfl
          | some split =>
              rw [escapeWithin_tag inner]
              rfl
        · rw [escapeWithin_plain backslash bracket]
          refine takeTag_eq_none.mpr fun opens stop => takeTag_eq_none.mp found opens ?_
          exact (bracket_escapeWithin bound rest shorter count 0).symm.trans stop

/-- Nothing in escaped text is taken for a tag, also with backslashes behind it. -/
theorem plain_escapeWithin (bound : Nat) (text : List Char) (enough : text.length ≤ bound)
    (count pending steps : Nat) :
    Plain (piecesWithin steps 0 (escapeWithin bound pending text ++ backslashes count)) := by
  induction bound, text, enough using escape_induction generalizing pending steps with
  | ends bound =>
      have bare (pending steps : Nat) : Plain (piecesWithin steps pending (backslashes count)) := by
        rw [← List.append_nil (backslashes count)]
        exact plain_backslashes (fun _ => plain_end _) steps
      have escaped : escapeWithin bound pending [] = backslashes pending := by
        cases bound <;> simp [escapeWithin]
      rw [escaped]
      exact plain_backslashes (bare _) steps
  | backslash bound rest enough ih => exact ih (pending + 1) steps
  | tag bound rest inside behind enough shorter found ih =>
      obtain ⟨first, name, rfl, -, opens, unbracketed⟩ := takeTag_eq_some found
      rw [escapeWithin_tag found, List.append_assoc, List.append_assoc]
      refine plain_backslashes (fun steps => ?_) steps
      cases steps with
      | zero => exact plain_text _
      | succ steps =>
          have taken : takeTag (first :: (name ++ ']' ::
              (escapeWithin bound 0 behind ++ backslashes count))) =
                some (first :: name, escapeWithin bound 0 behind ++ backslashes count) :=
            takeTag_append opens unbracketed
          -- so many backslashes make the tag a text
          have odd : (0 + (2 * pending + 1)) % 2 = 1 := by omega
          simp only [List.cons_append, piecesWithin, taken, if_pos odd]
          exact plain_cons (plain_cons (ih 0 steps))
  | bracket bound rest enough found ih =>
      rw [escapeWithin_bracket found, List.append_assoc]
      refine plain_backslashes (fun steps => ?_) steps
      cases steps with
      | zero => exact plain_text _
      | succ steps =>
          rw [List.cons_append]
          simp only [piecesWithin, takeTag_escapeWithin found enough]
          exact plain_cons (ih 0 steps)
  | plain bound char rest enough backslash bracket ih =>
      rw [escapeWithin_plain backslash bracket, List.append_assoc]
      refine plain_backslashes (fun steps => ?_) steps
      cases steps with
      | zero => exact plain_text _
      | succ steps =>
          rw [List.cons_append, piecesWithin]
          · exact plain_cons (plain_dropWhile (fun steps => ih 0 steps) steps)
          · exact backslash
          · exact bracket

end Escape

/-- Escaped text is shown without a fault, whatever styles are open. -/
theorem plain_escapeMarkup (text : List Char) (steps : Nat) :
    Plain (piecesWithin steps 0 (escapeMarkup text)) := by
  have added : ∃ count, escapeMarkup text =
      escapeWithin text.length 0 text ++ backslashes count := by
    unfold escapeMarkup
    dsimp only
    split
    · exact ⟨0, (List.append_nil _).symm⟩
    · exact ⟨1, rfl⟩
    · exact ⟨0, (List.append_nil _).symm⟩
  obtain ⟨count, escaped⟩ := added
  rw [escaped]
  exact plain_escapeWithin _ text (Nat.le_refl _) count 0 steps

end MonkeyLang.Console
