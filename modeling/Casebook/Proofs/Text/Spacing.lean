import Casebook.Text.Blank
import Casebook.Proofs.Text.Separated
import Mathlib.Data.List.DropRight
import Mathlib.Data.List.TakeWhile

/-! # Spacing

    How trimming, words and squeezing go together.

    Besides `Text.squeeze`, which is defined by the words of a text, there is a
    view of it that works character by character: `Text.collapse` makes every
    run of blanks one space, also at the ends, and squeezing is collapsing and
    trimming (`squeeze_eq_trim_collapse`).  A scanner that passes blanks
    unchanged commutes with `collapse`, which is how the normal form of step
    text is reasoned about.
-/

namespace Casebook.Text

/-- A text of blanks only. -/
def Blank (text : Text) : Prop :=
  ∀ c ∈ text, isBlank c = true

/-- A text without blanks. -/
def Solid (text : Text) : Prop :=
  ∀ c ∈ text, isBlank c = false

instance (text : Text) : Decidable (Blank text) :=
  List.decidableBAll (fun c => isBlank c = true) text

instance (text : Text) : Decidable (Solid text) :=
  List.decidableBAll (fun c => isBlank c = false) text

@[simp] theorem blank_nil : Blank [] := by simp [Blank]

@[simp] theorem blank_cons {c : Char} {text : Text} :
    Blank (c :: text) ↔ isBlank c = true ∧ Blank text := by
  simp [Blank]

@[simp] theorem solid_cons {c : Char} {text : Text} :
    Solid (c :: text) ↔ isBlank c = false ∧ Solid text := by
  simp [Solid]

theorem solid_singleton {c : Char} (hc : isBlank c = false) : Solid [c] := by simp [Solid, hc]

/-- Does the text begin with a blank? -/
def startsBlank (text : Text) : Bool :=
  text.head?.any isBlank

@[simp] theorem isBlank_space : isBlank ' ' = true := by decide

/-! ## Trimming -/

theorem trimStart_cons {c : Char} {text : Text} :
    trimStart (c :: text) = if isBlank c then trimStart text else c :: text :=
  List.dropWhile_cons

/-- Trimming at the start stops at the latest at a character that is no blank. -/
theorem trimStart_append_cons {c : Char} (hc : isBlank c = false) (front back : Text) :
    trimStart (front ++ c :: back) = trimStart front ++ c :: back := by
  induction front with
  | nil => simp [trimStart, hc]
  | cons d front ih =>
    rw [List.cons_append, trimStart_cons, trimStart_cons]
    cases isBlank d with
    | true => simpa using ih
    | false => simp

theorem trimStart_trimStart (text : Text) : trimStart (trimStart text) = trimStart text :=
  List.dropWhile_idempotent isBlank text

/-- What is left of a text by trimming at the start begins with no blank. -/
theorem isBlank_of_trimStart_eq_cons {text rest : Text} {c : Char}
    (h : trimStart text = c :: rest) : isBlank c = false := by
  have hnot := List.head?_dropWhile_not isBlank text
  rw [← trimStart, h] at hnot
  simpa using hnot

theorem startsBlank_eq_false_iff {text : Text} :
    startsBlank text = false ↔ ∀ c ∈ text.head?, isBlank c = false := by
  cases text <;> simp [startsBlank]

theorem startsBlank_trimStart (text : Text) : startsBlank (trimStart text) = false := by
  rw [startsBlank_eq_false_iff]
  intro c hc
  obtain ⟨rest, h⟩ := List.head?_eq_some_iff.1 hc
  exact isBlank_of_trimStart_eq_cons h

/-- Trimming at the start keeps a text that does not begin with a blank. -/
theorem trimStart_eq_self {text : Text} (h : startsBlank text = false) :
    trimStart text = text := by
  cases text with
  | nil => rfl
  | cons c text => rw [trimStart_cons, startsBlank_eq_false_iff.1 h c rfl, if_neg Bool.false_ne_true]

theorem trimStart_eq_nil_iff {text : Text} : trimStart text = [] ↔ Blank text := by
  simp [trimStart, Blank, List.dropWhile_eq_nil_iff]

theorem trimStart_append (front back : Text) :
    trimStart (front ++ back) = if Blank front then trimStart back else trimStart front ++ back := by
  have hfront : (front.dropWhile isBlank).isEmpty = true ↔ Blank front := by
    rw [List.isEmpty_iff]
    exact trimStart_eq_nil_iff
  unfold trimStart
  rw [List.dropWhile_append]
  simp only [hfront]

theorem trimEnd_append (front back : Text) :
    trimEnd (front ++ back) = if Blank back then trimEnd front else front ++ trimEnd back := by
  unfold trimEnd
  rw [List.reverse_append, List.dropWhile_append]
  -- From the end, the back comes first, and the front is reached when nothing is left of it.
  have hback : (back.reverse.dropWhile isBlank).isEmpty = true ↔ Blank back := by
    simp [Blank, List.dropWhile_eq_nil_iff]
  by_cases h : Blank back
  · rw [if_pos (hback.2 h), if_pos h]
  · have hne : ¬ (back.reverse.dropWhile isBlank).isEmpty = true := by
      intro hempty
      exact h (hback.1 hempty)
    rw [if_neg hne, if_neg h, List.reverse_append, List.reverse_reverse]

theorem trimEnd_eq_nil_iff {text : Text} : trimEnd text = [] ↔ Blank text := by
  simp [trimEnd, Blank, List.dropWhile_eq_nil_iff]

/-- A trimmed text does not end with a blank. -/
theorem isBlank_of_getLast?_trimEnd {text : Text} {c : Char}
    (h : (trimEnd text).getLast? = some c) :
    isBlank c = false := by
  rw [trimEnd, List.getLast?_reverse] at h
  have hnot := List.head?_dropWhile_not isBlank text.reverse
  rw [h] at hnot
  simpa using hnot

/-- Trimming at the end keeps a text that does not end with a blank. -/
theorem trimEnd_eq_self {text : Text} (h : ∀ c, text.getLast? = some c → isBlank c = false) :
    trimEnd text = text := by
  rcases List.eq_nil_or_concat text with rfl | ⟨front, c, rfl⟩
  · rfl
  · rw [List.concat_eq_append] at h ⊢
    have hc : isBlank c = false := h c (by simp)
    simp [trimEnd, hc]

theorem trimEnd_concat {c : Char} (hc : isBlank c = false) (text : Text) :
    trimEnd (text ++ [c]) = text ++ [c] :=
  trimEnd_eq_self (by simp [hc])

theorem trimEnd_cons_of_not_blank {c : Char} (hc : isBlank c = false) (text : Text) :
    trimEnd (c :: text) = c :: trimEnd text := by
  have h := trimEnd_append [c] text
  -- If the text is blank, the character is the last one that stays.
  by_cases hblank : Blank text
  · rw [if_pos hblank] at h
    rw [trimEnd_eq_nil_iff.2 hblank]
    simpa [trimEnd, hc] using h
  · rw [if_neg hblank] at h
    simpa using h

/-- Trimming at the end stops at the latest at a character that is no blank. -/
theorem trimEnd_append_cons {c : Char} (hc : isBlank c = false) (front back : Text) :
    trimEnd (front ++ c :: back) = front ++ c :: trimEnd back := by
  have hnot : ¬ Blank (c :: back) := by simp [hc]
  rw [trimEnd_append, if_neg hnot, trimEnd_cons_of_not_blank hc]

/-- A text is its trimmed form with blanks in front of it. -/
theorem exists_eq_append_trimStart (text : Text) :
    ∃ blanks, Blank blanks ∧ text = blanks ++ trimStart text := by
  refine ⟨text.takeWhile isBlank, ?_, List.takeWhile_append_dropWhile.symm⟩
  intro c hc
  exact List.mem_takeWhile_imp hc

/-- A text is its trimmed form with blanks behind it. -/
theorem exists_eq_trimEnd_append (text : Text) :
    ∃ blanks, Blank blanks ∧ text = trimEnd text ++ blanks := by
  refine ⟨(text.reverse.takeWhile isBlank).reverse, ?_, ?_⟩
  · intro c hc
    exact List.mem_takeWhile_imp (List.mem_reverse.1 hc)
  · rw [trimEnd, ← List.reverse_append, List.takeWhile_append_dropWhile, List.reverse_reverse]

theorem trim_cons_of_blank {c : Char} (hc : isBlank c = true) (text : Text) :
    trim (c :: text) = trim text := by
  rw [trim, trimStart_cons, if_pos hc, trim]

/-- Blanks at the start are trimmed away. -/
theorem trim_blank_append {blanks : Text} (h : Blank blanks) (text : Text) :
    trim (blanks ++ text) = trim text := by
  rw [trim, trimStart_append, if_pos h, trim]

theorem trimEnd_trimEnd (text : Text) : trimEnd (trimEnd text) = trimEnd text :=
  trimEnd_eq_self fun _ h => isBlank_of_getLast?_trimEnd h

/-- Trimming twice is trimming once. -/
theorem trim_trim (text : Text) : trim (trim text) = trim text := by
  unfold trim
  rcases hstart : trimStart text with _ | ⟨c, rest⟩
  · rfl
  · -- The first character that stays is no blank, so it is trimmed from neither end.
    have hc : isBlank c = false := isBlank_of_trimStart_eq_cons hstart
    rw [trimEnd_cons_of_not_blank hc, trimStart_cons, hc, if_neg Bool.false_ne_true,
      trimEnd_cons_of_not_blank hc, trimEnd_trimEnd]

/-- Nothing is left of a text by trimming exactly when it is blank. -/
theorem trim_eq_nil_iff {text : Text} : trim text = [] ↔ Blank text := by
  rw [trim, trimEnd_eq_nil_iff]
  constructor
  · intro h
    rcases hstart : trimStart text with _ | ⟨c, rest⟩
    · exact trimStart_eq_nil_iff.1 hstart
    · -- The first character that stays is no blank, so trimming at the end stops at it.
      have hc : isBlank c = true := h c (by simp [hstart])
      rw [isBlank_of_trimStart_eq_cons hstart] at hc
      cases hc
  · intro h
    rw [trimStart_eq_nil_iff.2 h]
    exact blank_nil

/-- Blanks at the end are trimmed away. -/
theorem trim_append_of_blank {blanks : Text} (h : Blank blanks) (text : Text) :
    trim (text ++ blanks) = trim text := by
  unfold trim
  rw [trimStart_append]
  split
  next htext => rw [trimStart_eq_nil_iff.2 h, trimStart_eq_nil_iff.2 htext]
  next htext => rw [trimEnd_append, if_pos h]

/-- What is left of a text by trimming begins with no blank. -/
theorem isBlank_of_trim_eq_cons {text rest : Text} {c : Char} (h : trim text = c :: rest) :
    isBlank c = false := by
  obtain ⟨blanks, -, htext⟩ := exists_eq_trimEnd_append (trimStart text)
  rw [← trim, h, List.cons_append] at htext
  exact isBlank_of_trimStart_eq_cons htext

/-! ## Words -/

theorem words_append_cons {c : Char} (hc : isBlank c = true) (front back : Text) :
    words (front ++ c :: back) = words front ++ words back := by
  rw [words, List.splitOnP_append_cons front back hc, List.filter_append]
  rfl

theorem words_cons_of_blank {c : Char} (hc : isBlank c = true) (text : Text) :
    words (c :: text) = words text :=
  words_append_cons hc [] text

/-- A text without blanks is one word. -/
theorem words_of_solid {word : Text} (hne : word ≠ []) (h : Solid word) : words word = [word] := by
  rw [words, List.splitOnP_eq_singleton h]
  simp [hne]

/-- A character that is no blank begins a word of its own before a blank or the
    end of the text, and otherwise belongs to the next word. -/
theorem words_cons_of_not_blank {c : Char} (hc : isBlank c = false) (text : Text) :
    (startsBlank text = true ∨ text = []) ∧ words (c :: text) = [c] :: words text ∨
      startsBlank text = false ∧
        ∃ word rest, words text = word :: rest ∧ words (c :: text) = (c :: word) :: rest := by
  cases text with
  | nil => exact Or.inl ⟨Or.inr rfl, words_of_solid (by simp) (solid_singleton hc)⟩
  | cons d text =>
    cases hd : isBlank d with
    | true =>
      refine Or.inl ⟨Or.inl (by simp [startsBlank, hd]), ?_⟩
      rw [words_cons_of_blank hd, show c :: d :: text = [c] ++ d :: text from rfl,
        words_append_cons hd, words_of_solid (by simp) (solid_singleton hc)]
      rfl
    | false =>
      -- The pieces of the rest begin with one that is not empty, and it gets the character.
      refine Or.inr ⟨by simp [startsBlank, hd], ?_⟩
      obtain ⟨first, others, h⟩ := List.exists_cons_of_ne_nil (List.splitOnP_ne_nil isBlank text)
      refine ⟨d :: first, others.filter fun word => !word.isEmpty, ?_, ?_⟩
      · simp [words, List.splitOnP_cons_eq_if_modifyHead, hd, h]
      · simp [words, List.splitOnP_cons_eq_if_modifyHead, hc, hd, h]

theorem words_eq_nil_iff {text : Text} : words text = [] ↔ Blank text := by
  induction text with
  | nil => simp [words]
  | cons c text ih =>
    cases hc : isBlank c with
    | true => rw [words_cons_of_blank hc, ih]; simp [hc]
    | false =>
      rcases words_cons_of_not_blank hc text with ⟨-, h⟩ | ⟨-, word, rest, -, h⟩ <;> simp [h, hc]

/-- A word is not empty and holds no blank. -/
theorem of_mem_words {text word : Text} (h : word ∈ words text) :
    word ≠ [] ∧ Solid word := by
  induction text generalizing word with
  | nil => simp [words] at h
  | cons c text ih =>
    cases hc : isBlank c with
    | true => exact ih (words_cons_of_blank hc text ▸ h)
    | false =>
      rcases words_cons_of_not_blank hc text with ⟨-, hwords⟩ | ⟨-, first, rest, htext, hwords⟩
      · rw [hwords] at h
        rcases List.mem_cons.1 h with rfl | h
        · exact ⟨by simp, solid_singleton hc⟩
        · exact ih h
      · rw [hwords] at h
        rcases List.mem_cons.1 h with rfl | h
        · have hmem : first ∈ words text := by simp [htext]
          have hfirst : Solid first := (ih hmem).2
          exact ⟨by simp, solid_cons.2 ⟨hc, hfirst⟩⟩
        · exact ih (by simp [htext, h])

/-- Pieces that are joined by a blank keep their words. -/
theorem words_joinWith {c : Char} (hc : isBlank c = true) (pieces : List Text) :
    words (joinWith [c] pieces) = pieces.flatMap words := by
  induction pieces with
  | nil => rfl
  | cons piece rest ih =>
    -- The blank behind the first piece cuts it off from the others.
    cases rest with
    | nil => rw [joinWith_singleton, List.flatMap_singleton]
    | cons next rest =>
      rw [joinWith_cons_cons, List.append_assoc, List.singleton_append, words_append_cons hc, ih]
      rfl

/-- The words of words joined by a space are those words. -/
theorem words_joinWith_space {list : List Text}
    (h : ∀ word ∈ list, word ≠ [] ∧ Solid word) :
    words (joinWith [' '] list) = list := by
  have hwords : ∀ word ∈ list, words word = [word] := by
    intro word hmem
    exact words_of_solid (h word hmem).1 (h word hmem).2
  rw [words_joinWith isBlank_space, List.flatMap_congr hwords, List.flatMap_singleton']

/-- The words of a text are those of its lines. -/
theorem flatMap_words_split (text : Text) : (split '\n' text).flatMap words = words text := by
  have hbreak : isBlank '\n' = true := by decide
  rw [← words_joinWith hbreak, joinWith_split]

theorem words_append_of_blank {back : Text} (h : Blank back) (front : Text) :
    words (front ++ back) = words front := by
  cases back with
  | nil => rw [List.append_nil]
  | cons c back =>
    obtain ⟨hc, hback⟩ := blank_cons.1 h
    rw [words_append_cons hc, words_eq_nil_iff.2 hback, List.append_nil]

/-- Trimming keeps the words. -/
theorem words_trimStart (text : Text) : words (trimStart text) = words text := by
  induction text with
  | nil => rfl
  | cons c text ih =>
    cases hc : isBlank c with
    | true => rw [trimStart_cons, if_pos hc, ih, words_cons_of_blank hc]
    | false => rw [trimStart_cons, hc, if_neg Bool.false_ne_true]

theorem words_trimEnd (text : Text) : words (trimEnd text) = words text := by
  obtain ⟨blanks, hblanks, htext⟩ := exists_eq_trimEnd_append text
  have h := words_append_of_blank hblanks (trimEnd text)
  rw [← htext] at h
  exact h.symm

/-! ### Words of lines -/

/-- Blanks in front of a text add blanks to its lines, and blank lines. -/
theorem flatMap_split_blank_append {α : Type} {f : Text → List α}
    (hf : ∀ {line other}, words line = words other → f line = f other) (hnil : f [] = [])
    {blanks : Text} (hblanks : Blank blanks) (text : Text) :
    (split '\n' (blanks ++ text)).flatMap f = (split '\n' text).flatMap f := by
  induction blanks with
  | nil => rfl
  | cons c blanks ih =>
    obtain ⟨hc, hrest⟩ := blank_cons.1 hblanks
    rw [← ih hrest, List.cons_append]
    by_cases hbreak : c = '\n'
    · subst hbreak
      have hsplit : split '\n' ('\n' :: (blanks ++ text)) = [] :: split '\n' (blanks ++ text) :=
        split_append_cons '\n' [] (blanks ++ text)
      rw [hsplit, List.flatMap_cons, hnil, List.nil_append]
    · obtain ⟨first, rest, htext⟩ := exists_split_eq_cons '\n' (blanks ++ text)
      rw [split_cons_of_ne hbreak htext, htext, List.flatMap_cons, List.flatMap_cons,
        hf (words_cons_of_blank hc first)]

/-- So do blanks behind it. -/
theorem flatMap_split_append_blank {α : Type} {f : Text → List α}
    (hf : ∀ {line other}, words line = words other → f line = f other) (hnil : f [] = [])
    {blanks : Text} (hblanks : Blank blanks) (text : Text) :
    (split '\n' (text ++ blanks)).flatMap f = (split '\n' text).flatMap f := by
  induction blanks generalizing text with
  | nil => rw [List.append_nil]
  | cons c blanks ih =>
    obtain ⟨hc, hrest⟩ := blank_cons.1 hblanks
    rw [← List.singleton_append, ← List.append_assoc, ih hrest]
    by_cases hbreak : c = '\n'
    · subst hbreak
      have hsplit : split '\n' (text ++ ['\n']) = split '\n' text ++ [[]] :=
        split_append_cons '\n' text []
      rw [hsplit, List.flatMap_append, List.flatMap_singleton, hnil, List.append_nil]
    · obtain ⟨front, last, htext, hmore⟩ := split_concat hbreak text
      have hblank : Blank [c] := blank_cons.2 ⟨hc, blank_nil⟩
      rw [htext, hmore, List.flatMap_append, List.flatMap_append, List.flatMap_singleton,
        List.flatMap_singleton, hf (words_append_of_blank hblank last)]

/-- **Trimming keeps what depends on the words of the lines**, if a blank line
    adds nothing to it. -/
theorem flatMap_split_trim {α : Type} {f : Text → List α}
    (hf : ∀ {line other}, words line = words other → f line = f other) (hnil : f [] = [])
    (text : Text) : (split '\n' (trim text)).flatMap f = (split '\n' text).flatMap f := by
  obtain ⟨before, hbefore, hstart⟩ := exists_eq_append_trimStart text
  obtain ⟨behind, hbehind, hend⟩ := exists_eq_trimEnd_append (trimStart text)
  rw [← trim] at hend
  have h := flatMap_split_blank_append hf hnil hbefore (trim text ++ behind)
  rw [← hend, ← hstart, hend, flatMap_split_append_blank hf hnil hbehind] at h
  exact h.symm

/-! ## Squeezing -/

/-- Squeezing keeps the words. -/
theorem words_squeeze (text : Text) : words (squeeze text) = words text :=
  words_joinWith_space fun _ h => of_mem_words h

theorem squeeze_squeeze (text : Text) : squeeze (squeeze text) = squeeze text :=
  congrArg (joinWith [' ']) (words_squeeze text)

theorem squeeze_eq_nil_iff {text : Text} : squeeze text = [] ↔ Blank text := by
  rw [← words_eq_nil_iff]
  constructor
  · apply joinWith_eq_nil
    intro word hmem
    exact (of_mem_words hmem).1
  · intro h
    rw [squeeze, h, joinWith_nil]

theorem squeeze_cons_of_blank {c : Char} (hc : isBlank c = true) (text : Text) :
    squeeze (c :: text) = squeeze text := by
  rw [squeeze, words_cons_of_blank hc, ← squeeze]

/-- A squeezed text has no blanks but spaces. -/
theorem of_mem_squeeze {text : Text} {c : Char} (h : c ∈ squeeze text) :
    c = ' ' ∨ isBlank c = false := by
  rcases mem_joinWith h with h | ⟨word, hword, hc⟩
  · exact Or.inl (by simpa using h)
  · exact Or.inr ((of_mem_words hword).2 c hc)

/-- The space that stands between a first character and the rest of a squeezed
    text, when the rest begins with a blank and is not blank altogether. -/
def gap (text : Text) : Text :=
  if startsBlank text = true ∧ ¬ Blank text then [' '] else []

theorem gap_cons_of_not_blank {c : Char} (hc : isBlank c = false) (text : Text) :
    gap (c :: text) = [] := by
  simp [gap, startsBlank, hc]

theorem gap_cons_of_blank {c : Char} (hc : isBlank c = true) (text : Text) :
    gap (c :: text) = if Blank text then [] else [' '] := by
  by_cases h : Blank text <;> simp [gap, startsBlank, hc, h]

theorem squeeze_cons_of_not_blank {c : Char} (hc : isBlank c = false) (text : Text) :
    squeeze (c :: text) = c :: (gap text ++ squeeze text) := by
  unfold squeeze gap
  rcases words_cons_of_not_blank hc text with ⟨hstart, h⟩ | ⟨hstart, word, rest, htext, h⟩
  · -- The character is a word of its own: a space follows if another word does.
    rw [h]
    by_cases hblank : Blank text
    · rw [if_neg (by simp [hblank]), words_eq_nil_iff.2 hblank]
      rfl
    · have hstart : startsBlank text = true := by
        rcases hstart with hstart | rfl
        · exact hstart
        · exact absurd blank_nil hblank
      obtain ⟨word, rest, htext⟩ :=
        List.exists_cons_of_ne_nil (fun hnil => hblank (words_eq_nil_iff.1 hnil))
      rw [if_pos ⟨hstart, hblank⟩, htext, joinWith_cons_cons]
      rfl
  · -- The character belongs to the first word, so nothing stands between them.
    rw [h, htext, if_neg (by simp [hstart])]
    cases rest with
    | nil => rfl
    | cons next rest => rw [joinWith_cons_cons, joinWith_cons_cons]; rfl

/-! ## Collapsing -/

/-- The text with every run of blanks made one space. -/
def collapse : Text → Text
  | [] => []
  | c :: text =>
    if isBlank c then if startsBlank text then collapse text else ' ' :: collapse text
    else c :: collapse text

theorem collapse_cons_of_not_blank {c : Char} (hc : isBlank c = false) (text : Text) :
    collapse (c :: text) = c :: collapse text := by
  simp [collapse, hc]

/-- Collapsing works on both sides of a character that is no blank. -/
theorem collapse_append_cons {c : Char} (hc : isBlank c = false) (front back : Text) :
    collapse (front ++ c :: back) = collapse front ++ c :: collapse back := by
  induction front with
  | nil => simp [collapse, hc]
  | cons d front ih =>
    have hstart : startsBlank (front ++ c :: back) = startsBlank front := by
      cases front <;> simp [startsBlank, hc]
    simp only [List.cons_append, collapse, hstart, ih]
    split
    · split <;> rfl
    · rfl

/-- A collapsed text that begins with a blank begins with a space. -/
theorem collapse_cons_of_blank {c : Char} (hc : isBlank c = true) (text : Text) :
    ∃ rest, collapse (c :: text) = ' ' :: rest := by
  induction text generalizing c with
  | nil => exact ⟨[], by simp [collapse, hc, startsBlank]⟩
  | cons d text ih =>
    cases hd : isBlank d with
    | true =>
      obtain ⟨rest, h⟩ := ih hd
      exact ⟨rest, by rw [← h, collapse]; simp [hc, hd, startsBlank]⟩
    | false => exact ⟨collapse (d :: text), by rw [collapse]; simp [hc, hd, startsBlank]⟩

theorem collapse_eq_nil_iff {text : Text} : collapse text = [] ↔ text = [] := by
  cases text with
  | nil => simp [collapse]
  | cons c text =>
    cases hc : isBlank c with
    | true =>
      obtain ⟨rest, h⟩ := collapse_cons_of_blank hc text
      simp [h]
    | false => simp [collapse_cons_of_not_blank hc]

/-- Where a collapsed text is cut at a character that is no blank, the text can
    be cut, too. -/
theorem exists_of_collapse_eq_append_cons {c : Char} (hc : isBlank c = false)
    {text front back : Text} (h : collapse text = front ++ c :: back) :
    ∃ front' back', text = front' ++ c :: back' ∧ collapse front' = front ∧
      collapse back' = back := by
  induction text generalizing front with
  | nil => simp [collapse] at h
  | cons d text ih =>
    have hspace : c ≠ ' ' := by rintro rfl; simp at hc
    cases hd : isBlank d with
    | true =>
      cases hstart : startsBlank text with
      | true =>
        -- A blank before a blank is dropped.
        rw [collapse, if_pos hd, if_pos hstart] at h
        obtain ⟨front', back', rfl, hfront, hback⟩ := ih h
        refine ⟨d :: front', back', rfl, ?_, hback⟩
        cases front' with
        | nil => simp [startsBlank, hc] at hstart
        | cons e front' =>
          rw [collapse, if_pos hd, if_pos (by simpa [startsBlank] using hstart), hfront]
      | false =>
        -- The last blank of a run is the space that the front begins with.
        rw [collapse, if_pos hd, if_neg (by simp [hstart])] at h
        cases front with
        | nil => exact absurd (List.cons.inj h).1.symm hspace
        | cons e front =>
          rw [List.cons_append, List.cons.injEq] at h
          obtain ⟨rfl, h⟩ := h
          obtain ⟨front', back', rfl, hfront, hback⟩ := ih h
          refine ⟨d :: front', back', rfl, ?_, hback⟩
          rw [collapse, if_pos hd, hfront, if_neg]
          cases front' with
          | nil => simp [startsBlank]
          | cons e front' => simpa [startsBlank] using hstart
    | false =>
      rw [collapse_cons_of_not_blank hd] at h
      cases front with
      | nil =>
        rw [List.nil_append, List.cons.injEq] at h
        obtain ⟨rfl, h⟩ := h
        exact ⟨[], text, rfl, rfl, h⟩
      | cons e front =>
        rw [List.cons_append, List.cons.injEq] at h
        obtain ⟨rfl, h⟩ := h
        obtain ⟨front', back', rfl, hfront, hback⟩ := ih h
        exact ⟨d :: front', back', rfl, by rw [collapse_cons_of_not_blank hd, hfront], hback⟩

/-- Where a collapsed text begins with characters that are no blanks, the text
    begins with them, too. -/
theorem exists_of_collapse_eq_append {front : Text} (hfront : Solid front)
    {text back : Text} (h : collapse text = front ++ back) :
    ∃ back', text = front ++ back' ∧ collapse back' = back := by
  induction front generalizing text with
  | nil => exact ⟨text, rfl, h⟩
  | cons c front ih =>
    obtain ⟨hc, hfront⟩ := solid_cons.1 hfront
    have hcut : collapse text = [] ++ c :: (front ++ back) := h
    obtain ⟨front', back', rfl, hnil, hback⟩ := exists_of_collapse_eq_append_cons hc hcut
    obtain rfl := collapse_eq_nil_iff.1 hnil
    obtain ⟨rest, rfl, hrest⟩ := ih hfront hback
    exact ⟨rest, rfl, hrest⟩

/-- Collapsing keeps characters that are no blanks at the start of a text. -/
theorem collapse_append_of_solid {front : Text} (hfront : Solid front)
    (back : Text) : collapse (front ++ back) = front ++ collapse back := by
  induction front with
  | nil => rfl
  | cons c front ih =>
    obtain ⟨hc, hfront⟩ := solid_cons.1 hfront
    rw [List.cons_append, collapse_cons_of_not_blank hc, ih hfront, List.cons_append]

theorem mem_collapse_iff {c : Char} (hc : isBlank c = false) {text : Text} :
    c ∈ collapse text ↔ c ∈ text := by
  constructor
  · intro h
    obtain ⟨front, back, h⟩ := List.append_of_mem h
    obtain ⟨front', back', rfl, -, -⟩ := exists_of_collapse_eq_append_cons hc h
    simp
  · intro h
    obtain ⟨front, back, rfl⟩ := List.append_of_mem h
    simp [collapse_append_cons hc]

theorem prefix_collapse_iff {front : Text} (hfront : Solid front) {text : Text} :
    front <+: collapse text ↔ front <+: text := by
  constructor
  · intro hright
    obtain ⟨back, h⟩ := hright
    obtain ⟨back', rfl, -⟩ := exists_of_collapse_eq_append hfront h.symm
    exact ⟨back', rfl⟩
  · intro hright
    obtain ⟨back, rfl⟩ := hright
    exact ⟨collapse back, (collapse_append_of_solid hfront back).symm⟩

theorem suffix_collapse_iff {back : Text} (hback : Solid back) {text : Text} :
    back <:+ collapse text ↔ back <:+ text := by
  cases back with
  | nil => simp
  | cons c back =>
    obtain ⟨hc, hrest⟩ := solid_cons.1 hback
    constructor
    · intro hright
      obtain ⟨front, h⟩ := hright
      obtain ⟨front', back', rfl, -, h⟩ := exists_of_collapse_eq_append_cons hc h.symm
      -- What collapses to the back without blanks is the back with nothing behind it.
      rw [← List.append_nil back] at h
      obtain ⟨nothing, rfl, hnothing⟩ := exists_of_collapse_eq_append hrest h
      obtain rfl := collapse_eq_nil_iff.1 hnothing
      exact ⟨front', by simp⟩
    · intro hright
      obtain ⟨front, rfl⟩ := hright
      have h := collapse_append_of_solid hrest []
      rw [List.append_nil, collapse, List.append_nil] at h
      exact ⟨collapse front, by rw [collapse_append_cons hc, h]⟩

/-- Collapsing goes together with a change of characters that leaves blanks alone. -/
theorem collapse_map {f : Char → Char} (hf : ∀ c, isBlank (f c) = isBlank c) (hspace : f ' ' = ' ')
    (text : Text) : collapse (text.map f) = (collapse text).map f := by
  induction text with
  | nil => rfl
  | cons c text ih =>
    have hstart : startsBlank (text.map f) = startsBlank text := by
      cases text <;> simp [startsBlank, hf]
    simp only [List.map_cons, collapse, hf, hstart, ih]
    split
    · split
      · rfl
      · rw [List.map_cons, hspace]
    · rfl

/-- Collapsing leaves one space more in front than squeezing, and trailing blanks. -/
theorem trimEnd_collapse (text : Text) : trimEnd (collapse text) = gap text ++ squeeze text := by
  induction text with
  | nil => rfl
  | cons c text ih =>
    cases hc : isBlank c with
    | false =>
      rw [collapse_cons_of_not_blank hc, trimEnd_cons_of_not_blank hc, ih,
        squeeze_cons_of_not_blank hc, gap_cons_of_not_blank hc, List.nil_append]
    | true =>
      rw [squeeze_cons_of_blank hc, gap_cons_of_blank hc, collapse, if_pos hc]
      cases hstart : startsBlank text with
      | true =>
        -- The blank is dropped, and the gap is the one that the next blank leaves.
        rw [if_pos rfl, ih, gap, hstart]
        by_cases h : Blank text <;> simp [h]
      | false =>
        -- The blank becomes the space, which is trimmed away if nothing else follows.
        have hgap : gap text = [] := by simp [gap, hstart]
        have hblank : Blank (collapse text) ↔ Blank text := by
          rw [← trimEnd_eq_nil_iff, ih, hgap, List.nil_append, squeeze_eq_nil_iff]
        have h := trimEnd_append [' '] (collapse text)
        rw [List.singleton_append] at h
        rw [if_neg Bool.false_ne_true, h]
        by_cases hb : Blank text
        · rw [if_pos (hblank.2 hb), if_pos hb, squeeze_eq_nil_iff.2 hb]
          rfl
        · have hcollapse : ¬ Blank (collapse text) := by
            intro hc
            exact hb (hblank.1 hc)
          rw [if_neg hcollapse, if_neg hb, ih, hgap, List.nil_append]

/-- **Squeezing is collapsing and trimming.** -/
theorem squeeze_eq_trim_collapse (text : Text) : squeeze text = trim (collapse text) := by
  unfold trim
  induction text with
  | nil => rfl
  | cons c text ih =>
    cases hc : isBlank c with
    | false =>
      have h := trimEnd_collapse (c :: text)
      rw [gap_cons_of_not_blank hc, List.nil_append] at h
      rw [collapse_cons_of_not_blank hc] at h ⊢
      rw [trimStart_cons, hc, if_neg Bool.false_ne_true, h]
    | true =>
      have hstart : trimStart (collapse (c :: text)) = trimStart (collapse text) := by
        rw [collapse, if_pos hc]
        split
        · rfl
        · rw [trimStart_cons, isBlank_space, if_pos rfl]
      rw [squeeze_cons_of_blank hc, hstart, ih]

end Casebook.Text
