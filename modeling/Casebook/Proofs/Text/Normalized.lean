import Casebook.Proofs.Text.Tidy

/-! # Normalized texts

    Which texts are in normal form, said without normalizing them: they are tidy,
    and no reference in them names a file that is still to be embedded
    (`Text.Normalized`).

    * Squeezing leaves exactly the tidy texts alone (`squeeze_eq_self_iff`), and
      embedding exactly the texts that have nothing to embed
      (`embedFiles_eq_self_iff`).
    * Normalizing leaves exactly the normalized texts alone, and its own results
      are among them (`normalize_idempotent`).
-/

namespace Casebook.Text

/-! ## Texts that squeezing leaves alone -/

/-- Nothing is collapsed in a text whose blanks are single spaces. -/
theorem collapse_eq_self {text : Text} (hspaces : ∀ c ∈ text, isBlank c = true → c = ' ')
    (hapart : text.IsChain fun c d => ¬ (c = ' ' ∧ d = ' ')) : collapse text = text := by
  induction text with
  | nil => rfl
  | cons c text ih =>
    obtain ⟨hnext, hrest⟩ := List.isChain_cons.1 hapart
    have hself : collapse text = text := by
      refine ih ?_ hrest
      intro d hd
      exact hspaces d (List.mem_cons_of_mem c hd)
    by_cases hc : isBlank c = true
    · have hspace : c = ' ' := hspaces c (List.mem_cons_self ..) hc
      -- A blank behind this one would be a space, too.
      have hstart : ¬ startsBlank text = true := by
        intro hstart
        cases text with
        | nil => cases hstart
        | cons d text =>
          have hd : d = ' ' := hspaces d (by simp) (by simpa [startsBlank] using hstart)
          exact hnext d rfl ⟨hspace, hd⟩
      rw [collapse, if_pos hc, if_neg hstart, hself, hspace]
    · rw [collapse, if_neg hc, hself]

/-- **Squeezing leaves exactly the tidy texts alone.** -/
theorem squeeze_eq_self_iff {text : Text} : squeeze text = text ↔ Tidy text := by
  constructor
  · intro hself
    rw [← hself]
    exact tidy_squeeze text
  · intro h
    rw [squeeze_eq_trim_collapse, collapse_eq_self h.spaces h.apart, trim,
      trimStart_eq_self (startsBlank_eq_false_iff.2 h.head), trimEnd_eq_self h.last]

/-! ## Texts that embedding leaves alone -/

/-- A reference that names a file does not stay as it is. -/
theorem embedInside_eq_self_iff {inside : Text} :
    embedInside inside = inside ↔ namesFile inside = false := by
  constructor
  · intro hself
    by_contra hnames
    rw [Bool.not_eq_false] at hnames
    -- It would be a directive already.
    have hdirective : isDirective inside = true := by
      rw [← hself, embedInside, if_pos hnames]
      exact isDirective_embed (directiveFor inside) inside
    simp [namesFile, hdirective] at hnames
  · intro hnames
    rw [embedInside, hnames, if_neg Bool.false_ne_true]

/-- **Embedding leaves exactly those texts alone** that have nothing to embed. -/
theorem embedFiles_eq_self_iff {text : Text} :
    embedFiles text = text ↔
      ∀ inside, .reference inside ∈ pieces text → namesFile inside = false := by
  constructor
  · intro hself inside hmem
    -- The cut of the text is its own embedding, piece by piece.
    have hpieces : (pieces text).map Piece.embed = (pieces text).map id := by
      rw [← pieces_embedFiles, hself, List.map_id]
    have hpiece := List.map_inj_left.1 hpieces (.reference inside) hmem
    rw [embed_reference, id, Piece.reference.injEq] at hpiece
    exact embedInside_eq_self_iff.1 hpiece
  · intro hnames
    have hpieces : (pieces text).map Piece.embed = (pieces text).map id := by
      apply List.map_congr_left
      intro piece hmem
      cases piece with
      | plain c => rfl
      | reference inside =>
        rw [embed_reference, embedInside_eq_self_iff.2 (hnames inside hmem), id]
    rw [embedFiles, hpieces, List.map_id, sourceOf_pieces]

/-! ## Texts in normal form -/

/-- The text is tidy, and no reference in it names a file that is still to be
    embedded. -/
structure Normalized (text : Text) : Prop where
  tidy : Tidy text
  embedded : ∀ inside, .reference inside ∈ pieces text → namesFile inside = false

theorem normalize_eq_self_iff {text : Text} : normalize text = text ↔ Normalized text := by
  constructor
  · intro hself
    have hembed : embedFiles text = text := by
      rw [← hself, embedFiles_normalize]
    exact ⟨hself ▸ tidy_normalize text, embedFiles_eq_self_iff.1 hembed⟩
  · intro h
    rw [normalize, embedFiles_eq_self_iff.2 h.embedded, squeeze_eq_self_iff.2 h.tidy]

/-- **Normalizing is idempotent**, for every text.  What it leaves alone is not
    only its own results: these are exactly the normalized texts. -/
theorem normalize_idempotent (text : Text) :
    normalize (normalize text) = normalize text ∧ (normalize text = text ↔ Normalized text) :=
  ⟨normalize_normalize text, normalize_eq_self_iff⟩

/-- A directive behind a blank is no directive yet.  It is embedded once, and
    what is made of it is left alone. -/
example :
    normalize "\u2003\x7b\x7b file.download(../a)\x7d\x7d\n \x7b\x7bb/c".toList =
        "\x7b\x7bfile.download(../ file.download(../a))\x7d\x7d \x7b\x7bb/c".toList ∧
      normalize "\x7b\x7bfile.download(../ file.download(../a))\x7d\x7d \x7b\x7bb/c".toList =
        "\x7b\x7bfile.download(../ file.download(../a))\x7d\x7d \x7b\x7bb/c".toList := by
  decide +kernel

end Casebook.Text
