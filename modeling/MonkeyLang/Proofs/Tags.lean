import MonkeyLang.Proofs.Markup

/-!
Text that is read as markup although nobody escaped it. Tags are not shown, and of the
backslashes before a bracket some are not; everything else stays where it is. So a text is shown
as it stands exactly when there is no markup in it.
-/

namespace MonkeyLang.Console

/-- Somewhere in a text stands a tag, or a backslash before a bracket. -/
inductive MarkedUp : List Char → Prop where
  | tag {first name behind} : opensTag first = true → (∀ char ∈ name, notBracket char = true) →
      MarkedUp ('[' :: (first :: name ++ ']' :: behind))
  | escape {behind} : MarkedUp ('\\' :: '[' :: behind)
  | later {char rest} : MarkedUp rest → MarkedUp (char :: rest)

section MarkedUp
variable {char : Char} {rest : List Char}

theorem not_markedUp_nil : ¬ MarkedUp [] :=
  nofun

theorem markedUp_cons : MarkedUp (char :: rest) ↔
    (char = '[' ∧ (takeTag rest).isSome = true) ∨ (char = '\\' ∧ rest.head? = some '[') ∨
      MarkedUp rest := by
  constructor
  · intro marked
    cases marked with
    | tag opens plain =>
        left
        rw [takeTag_append opens plain]
        exact ⟨rfl, rfl⟩
    | escape => exact .inr (.inl ⟨rfl, rfl⟩)
    | later marked => exact .inr (.inr marked)
  · rintro (⟨rfl, found⟩ | ⟨rfl, bracket⟩ | marked)
    · obtain ⟨⟨inside, behind⟩, found⟩ := Option.isSome_iff_exists.mp found
      obtain ⟨first, name, rfl, rfl, opens, plain⟩ := takeTag_eq_some found
      exact .tag opens plain
    · obtain ⟨behind, rfl⟩ := List.head?_eq_some_iff.mp bracket
      exact .escape
    · exact .later marked

instance : DecidablePred MarkedUp
  | [] => isFalse not_markedUp_nil
  | _ :: rest =>
      have := instDecidablePredListCharMarkedUp rest
      decidable_of_iff _ markedUp_cons.symm

theorem markedUp_backslashes {count : Nat} : MarkedUp (backslashes count ++ rest) ↔
    (0 < count ∧ rest.head? = some '[') ∨ MarkedUp rest := by
  induction count with
  | zero => simp [backslashes]
  | succ count ih =>
      have split : backslashes (count + 1) ++ rest = '\\' :: (backslashes count ++ rest) := rfl
      rw [split, markedUp_cons, ih]
      cases count <;> simp [backslashes, List.replicate_succ]

theorem markedUp_append {start : List Char} (plain : ∀ char ∈ start, char ≠ '\\' ∧ char ≠ '[') :
    MarkedUp (start ++ rest) ↔ MarkedUp rest := by
  induction start with
  | nil => rfl
  | cons char start ih =>
      obtain ⟨⟨backslash, bracket⟩, others⟩ := List.forall_mem_cons.mp plain
      rw [List.cons_append, markedUp_cons, ih others]
      simp [backslash, bracket]

end MarkedUp

theorem backslashes_succ (count : Nat) (rest : List Char) :
    backslashes (count + 1) ++ rest = backslashes count ++ '\\' :: rest := by
  rw [backslashes, List.replicate_succ', List.append_assoc]
  rfl

/-- What is shown of a piece. -/
def Piece.visible : Piece → List Char
  | text chars => chars
  | tag _ => []

theorem showPieces_eq {stack : List OpenTag} {pieces : List Piece} {seen : List Char}
    (shows : showPieces stack pieces = .ok seen) : seen = pieces.flatMap Piece.visible := by
  induction pieces generalizing stack seen with
  | nil => cases shows; rfl
  | cons piece rest ih =>
      cases piece with
      | text chars =>
          rw [showPieces] at shows
          cases others : showPieces stack rest with
          | error fault => rw [others] at shows; cases shows
          | ok more =>
              rw [others] at shows
              cases shows
              rw [ih others]
              rfl
      | tag tag =>
          rw [showPieces] at shows
          cases follows : follow tag stack with
          | error fault => rw [follows] at shows; cases shows
          | ok after =>
              rw [follows] at shows
              exact ih shows

theorem backslashes_sublist {fewer count : Nat} (le : fewer ≤ count) :
    (backslashes fewer).Sublist (backslashes count) :=
  (List.replicate_sublist_replicate _).mpr le

/-- Nothing is moved, and nothing is added. -/
theorem visible_sublist (bound pending : Nat) (text : List Char) :
    ((piecesWithin bound pending text).flatMap Piece.visible).Sublist
      (backslashes pending ++ text) := by
  fun_induction piecesWithin bound pending text with
  | case1 => simp [Piece.visible]
  | case2 => simp [Piece.visible]
  | case3 bound pending rest ih => rwa [backslashes_succ] at ih
  | case4 bound pending rest inside behind found tag ih =>
      obtain ⟨-, -, -, rfl, -⟩ := takeTag_eq_some found
      have own : tag.visible.Sublist ('[' :: inside ++ [']']) := by
        unfold tag
        split
        · exact List.Sublist.refl _
        · exact List.nil_sublist _
      have whole := (backslashes_sublist (Nat.div_le_self pending 2)).append (own.append ih)
      simpa [Piece.visible, backslashes] using whole
  | case5 bound pending rest _ ih =>
      have whole := (backslashes_sublist (Nat.sub_le pending 1)).append (ih.cons_cons '[')
      simpa [Piece.visible, backslashes] using whole
  | case6 bound pending char rest _ _ plain ih =>
      have whole := ih.append_left (backslashes pending ++ char :: rest.takeWhile plain)
      simpa [Piece.visible, backslashes] using whole

/-- The number of opening brackets and backslashes. -/
def marks (text : List Char) : Nat :=
  text.countP fun char => char == '[' || char == '\\'

section Marks
variable (text other : List Char)

@[simp] theorem marks_nil : marks [] = 0 :=
  rfl

@[simp] theorem marks_append : marks (text ++ other) = marks text + marks other :=
  List.countP_append

@[simp] theorem marks_bracket : marks ('[' :: text) = marks text + 1 :=
  List.countP_cons_of_pos rfl

@[simp] theorem marks_backslash : marks ('\\' :: text) = marks text + 1 :=
  List.countP_cons_of_pos rfl

@[simp] theorem marks_closing : marks (']' :: text) = marks text :=
  List.countP_cons_of_neg Bool.false_ne_true

@[simp] theorem marks_backslashes (count : Nat) : marks (backslashes count) = count := by
  rw [marks, backslashes, List.countP_replicate]
  rfl

theorem marks_visible_le (bound : Nat) :
    marks ((piecesWithin bound 0 text).flatMap Piece.visible) ≤ marks text :=
  (visible_sublist bound 0 text).countP_le

end Marks

/-- Characters that no markup begins with. -/
def isPlain (char : Char) : Bool :=
  char ≠ '\\' && char ≠ '['

section Pending
variable {pending : Nat} {char : Char} {rest : List Char}

theorem not_markedUp_backslashes : ¬ MarkedUp (backslashes pending ++ []) := fun marked =>
  not_markedUp_nil ((markedUp_backslashes.mp marked).resolve_left nofun)

theorem markedUp_bracket (closed : takeTag rest = none) :
    MarkedUp (backslashes pending ++ '[' :: rest) ↔ 0 < pending ∨ MarkedUp rest := by
  rw [markedUp_backslashes, markedUp_cons, closed]
  simp

/-- Markup behind plain characters is what there is from where they end. -/
theorem markedUp_plain (backslash : char ≠ '\\') (bracket : char ≠ '[') :
    MarkedUp (backslashes pending ++ char :: rest) ↔ MarkedUp (rest.dropWhile isPlain) := by
  have taken : ∀ char ∈ rest.takeWhile isPlain, char ≠ '\\' ∧ char ≠ '[' := by
    intro char member
    simpa [isPlain] using List.mem_takeWhile_imp member
  have behind : MarkedUp (rest.takeWhile isPlain ++ rest.dropWhile isPlain) ↔
      MarkedUp (rest.dropWhile isPlain) := markedUp_append taken
  rw [List.takeWhile_append_dropWhile] at behind
  rw [markedUp_backslashes, markedUp_cons, behind]
  simp [backslash, bracket]

end Pending

theorem length_dropWhile_le {rest : List Char} {bound : Nat}
    (enough : rest.length + 1 ≤ bound + 1) :
    (rest.dropWhile isPlain).length ≤ bound :=
  (List.length_dropWhile_le isPlain rest).trans (Nat.le_of_succ_le_succ enough)

/-- Wherever there is markup, some of its marks are not shown. -/
theorem marks_lt {bound pending : Nat} {text : List Char} (enough : text.length ≤ bound)
    (marked : MarkedUp (backslashes pending ++ text)) :
    marks ((piecesWithin bound pending text).flatMap Piece.visible) < pending + marks text := by
  fun_induction piecesWithin bound pending text with
  | case1 pending text =>
      obtain rfl := List.eq_nil_of_length_eq_zero (Nat.le_zero.mp enough)
      exact absurd marked not_markedUp_backslashes
  | case2 => exact absurd marked not_markedUp_backslashes
  | case3 bound pending rest ih =>
      have less := ih (Nat.le_of_succ_le_succ enough) (backslashes_succ _ _ ▸ marked)
      rw [marks_backslash]
      omega
  | case4 bound pending rest inside behind found tag ih =>
      have le := marks_visible_le behind bound
      obtain ⟨-, -, -, rfl, -⟩ := takeTag_eq_some found
      -- either the tag is not shown, or one at least of the backslashes that make it a text
      unfold tag
      split
      · simp [Piece.visible]
        omega
      · simp [Piece.visible]
        omega
  | case5 bound pending rest closed ih =>
      have le := marks_visible_le rest bound
      simp only [List.flatMap_cons, Piece.visible, marks_append, marks_backslashes, marks_bracket,
        marks_nil]
      rcases (markedUp_bracket closed).mp marked with escaped | marked
      · omega
      · have less := ih (Nat.le_of_succ_le_succ enough) marked
        omega
  | case6 bound pending char rest backslash bracket plain ih =>
      have same : plain = isPlain := rfl
      rw [same] at ih ⊢
      have less := ih (length_dropWhile_le enough) ((markedUp_plain backslash bracket).mp marked)
      have split : marks (char :: rest) =
          marks (char :: rest.takeWhile isPlain) + marks (rest.dropWhile isPlain) := by
        rw [← marks_append, List.cons_append, List.takeWhile_append_dropWhile]
      rw [List.flatMap_cons, Piece.visible, marks_append, marks_append, marks_backslashes, split]
      omega

/-- A text without markup is cut into pieces that have no tags and make up the text. -/
theorem visible_eq {bound pending : Nat} {text : List Char} (enough : text.length ≤ bound)
    (unmarked : ¬ MarkedUp (backslashes pending ++ text)) :
    Plain (piecesWithin bound pending text) ∧
      (piecesWithin bound pending text).flatMap Piece.visible = backslashes pending ++ text := by
  fun_induction piecesWithin bound pending text with
  | case1 => exact ⟨plain_text _, by simp [Piece.visible]⟩
  | case2 => exact ⟨plain_text _, by simp [Piece.visible]⟩
  | case3 bound pending rest ih =>
      rw [← backslashes_succ] at unmarked ⊢
      exact ih (Nat.le_of_succ_le_succ enough) unmarked
  | case4 bound pending rest inside behind found tag ih =>
      -- with backslashes before it or without, a tag is markup
      have marked : MarkedUp ('[' :: rest) := markedUp_cons.mpr (.inl ⟨rfl, by rw [found]; rfl⟩)
      exact absurd (markedUp_backslashes.mpr (.inr marked)) unmarked
  | case5 bound pending rest closed ih =>
      obtain ⟨unescaped, others⟩ := not_or.mp (mt (markedUp_bracket closed).mpr unmarked)
      obtain rfl := Nat.eq_zero_of_not_pos unescaped
      obtain ⟨plain, same⟩ := ih (Nat.le_of_succ_le_succ enough) others
      refine ⟨plain_cons plain, ?_⟩
      rw [List.flatMap_cons, same]
      rfl
  | case6 bound pending char rest backslash bracket plain ih =>
      obtain ⟨others, same⟩ := ih (length_dropWhile_le enough)
        (mt (markedUp_plain backslash bracket).mpr unmarked)
      refine ⟨plain_cons others, ?_⟩
      rw [List.flatMap_cons, same]
      simp [Piece.visible, backslashes]

section Shown
variable {text seen : List Char}

/-- What is shown of a text is the text with some of its characters left out. -/
theorem shown_sublist (shows : shown text = .ok seen) : seen.Sublist text :=
  showPieces_eq shows ▸ visible_sublist text.length 0 text

theorem marks_shown_lt (shows : shown text = .ok seen) (marked : MarkedUp text) :
    marks seen < marks text := by
  have less : marks ((pieces text).flatMap Piece.visible) < 0 + marks text :=
    marks_lt (Nat.le_refl text.length) marked
  rwa [Nat.zero_add, ← showPieces_eq shows] at less

/-- A text is shown as it stands exactly when there is no markup in it. -/
theorem shown_eq_self_iff : shown text = .ok text ↔ ¬ MarkedUp text := by
  constructor
  · intro shows marked
    exact Nat.lt_irrefl _ (marks_shown_lt shows marked)
  · intro unmarked
    obtain ⟨plain, same⟩ : Plain (pieces text) ∧ (pieces text).flatMap Piece.visible = text :=
      visible_eq (Nat.le_refl text.length) unmarked
    obtain ⟨seen, shows⟩ : ∃ seen, shown text = .ok seen := showPieces_plain plain
    rw [shows, showPieces_eq shows, same]

end Shown

end MonkeyLang.Console
