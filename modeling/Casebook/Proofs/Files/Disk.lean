import Casebook.Files.Disk
import Casebook.Proofs.Except
import Casebook.Proofs.Text.Separated

/-! # Files on a disk

    What writing a file does to the other files, and to the paths that lead to
    them.

    * Writing puts one file at the place that the path leads to
      (`Disk.exists_of_writeText`), and every other place has what it had
      (`Disk.node?_put`).
    * Directories stay and nothing disappears (`Disk.Grows`), so a path that
      leads to a place keeps leading there (`Disk.Grows.locate`).
    * Names in a directory lead to places of their own
      (`Disk.eq_of_locate_join`).
-/

namespace Casebook.Files

/-! ## Paths -/

namespace Path

theorem parts_ne_nil (path : Path) : parts path ≠ [] :=
  List.splitOn_ne_nil '/' path

/-- A path is determined by its parts. -/
theorem parts_inj {path other : Path} (h : parts path = parts other) : path = other := by
  rw [← Text.joinWith_split '/' path, ← Text.joinWith_split '/' other]
  exact congrArg _ h

/-- A relative path is followed behind the parts of the directory that it is
    joined to. -/
theorem exists_parts_join (directory : Path) :
    ∃ front, ∀ path, path ≠ [] → isAbsolute path = false →
      parts (join directory path) = front ++ parts path ∧
        isAbsolute (join directory path) = isAbsolute directory := by
  rcases List.eq_nil_or_concat directory with rfl | ⟨before, last, rfl⟩
  · refine ⟨[], ?_⟩
    intro path _ hrelative
    have hjoin : join [] path = path := by simp [join]
    rw [hjoin, hrelative]
    exact ⟨rfl, rfl⟩
  · by_cases hslash : last = '/'
    · -- The slash at the end of the directory is the one between the two.
      subst hslash
      refine ⟨parts before, ?_⟩
      intro path _ hrelative
      have hjoin : join (before ++ ['/']) path = before ++ '/' :: path := by
        simp [join, hrelative]
      rw [List.concat_eq_append, hjoin]
      refine ⟨Text.split_append_cons '/' before path, ?_⟩
      cases before <;> rfl
    · refine ⟨parts (before ++ [last]), ?_⟩
      intro path _ hrelative
      have hjoin : join (before ++ [last]) path = (before ++ [last]) ++ '/' :: path := by
        simp [join, hrelative, hslash]
      rw [List.concat_eq_append, hjoin]
      refine ⟨Text.split_append_cons '/' (before ++ [last]) path, ?_⟩
      cases before <;> rfl

end Path

namespace Disk

/-! ## What is at a place -/

theorem lookup_filter_ne {place other : Place} (hne : other ≠ place) (nodes : List (Place × Node)) :
    (nodes.filter fun entry => entry.1 != place).lookup other = nodes.lookup other := by
  induction nodes with
  | nil => rfl
  | cons entry rest ih =>
    obtain ⟨key, node⟩ := entry
    by_cases hkey : key = place
    · -- The entry is left out, and it is not the one that is looked for.
      have hother : (other == key) = false := by
        rw [hkey]
        exact beq_eq_false_iff_ne.2 hne
      rw [List.filter_cons_of_neg (by simp [hkey]), ih, List.lookup_cons, hother]
    · rw [List.filter_cons_of_pos (by simp [hkey]), List.lookup_cons, List.lookup_cons, ih]

/-- **One place changes.**  The root, which has no name, is no place for a
    file. -/
theorem node?_put {place : Place} (hplace : place ≠ []) (disk : Disk) (node : Node)
    (other : Place) :
    (disk.put place node).node? other = if other = place then some node else disk.node? other := by
  unfold node? put
  by_cases hother : other = place
  · have hne : other.isEmpty = false := by simpa [hother] using hplace
    rw [if_pos hother, hne, if_neg Bool.false_ne_true, List.lookup_cons, hother]
    simp
  · have hbeq : (other == place) = false := beq_eq_false_iff_ne.2 hother
    rw [if_neg hother, List.lookup_cons, hbeq, lookup_filter_ne hother]

theorem isDirectoryAt_iff {disk : Disk} {place : Place} :
    disk.isDirectoryAt place = true ↔ disk.node? place = some .directory := by
  simp [isDirectoryAt]

/-! ## Following paths -/

theorem enter_eq_ok_iff {disk : Disk} {place here : Place} :
    disk.enter place = .ok here ↔ disk.node? place = some .directory ∧ here = place := by
  unfold enter
  split
  next hnode => simp [hnode, eq_comm]
  next hnode => simp [hnode]
  next hnode => simp [hnode]

theorem child_eq_ok {place there : Place} {name : Text} (h : child place name = .ok there) :
    there = place ++ [name] := by
  unfold child at h
  split at h
  · cases h
  · exact (Except.ok.inj h).symm

/-- Only from a directory is a part of a path followed. -/
theorem directory_of_follow {disk : Disk} {place there : Place} {part : Text}
    (h : disk.follow place part = .ok there) : disk.node? place = some .directory := by
  obtain ⟨here, henter, -⟩ := bind_eq_ok_iff.1 h
  exact (enter_eq_ok_iff.1 henter).1

theorem follow_of_directory {disk : Disk} {place : Place} (h : disk.node? place = some .directory)
    (part : Text) :
    disk.follow place part =
      if part = [] ∨ part = ['.'] then .ok place
      else if part = ['.', '.'] then .ok place.dropLast
      else child place part >>= fun there =>
        if (disk.node? there).isSome then .ok there else .error Fault.notFound := by
  unfold follow
  rw [enter_eq_ok_iff.2 ⟨h, rfl⟩]
  rfl

/-- A name is followed to something in the directory. -/
theorem follow_name_iff {disk : Disk} {place there : Place} {name : Text}
    (hname : isName name = true) :
    disk.follow place name = .ok there ↔
      disk.node? place = some .directory ∧ child place name = .ok there ∧
        (disk.node? there).isSome = true := by
  have hstay : ¬ (name = [] ∨ name = ['.']) := by
    rintro (rfl | rfl) <;> cases hname
  have hup : name ≠ ['.', '.'] := by
    rintro rfl
    cases hname
  constructor
  · intro h
    have hdirectory := directory_of_follow h
    rw [follow_of_directory hdirectory, if_neg hstay, if_neg hup, bind_eq_ok_iff] at h
    obtain ⟨found, hchild, hfound⟩ := h
    split at hfound
    next hsome =>
      obtain rfl := Except.ok.inj hfound
      exact ⟨hdirectory, hchild, hsome⟩
    · cases hfound
  · rintro ⟨hdirectory, hchild, hsome⟩
    rw [follow_of_directory hdirectory, if_neg hstay, if_neg hup, bind_eq_ok_iff]
    exact ⟨there, hchild, if_pos hsome⟩

/-- A path is followed by its first part and then by the others. -/
theorem followAll_cons_eq_ok_iff {disk : Disk} {start place : Place} {part : Text}
    {rest : List Text} :
    disk.followAll start (part :: rest) = .ok place ↔
      ∃ next, disk.follow start part = .ok next ∧ disk.followAll next rest = .ok place :=
  bind_eq_ok_iff

theorem followAll_append_eq_ok_iff {disk : Disk} {start place : Place} {front back : List Text} :
    disk.followAll start (front ++ back) = .ok place ↔
      ∃ next, disk.followAll start front = .ok next ∧ disk.followAll next back = .ok place := by
  induction front generalizing start with
  | nil =>
    show disk.followAll start back = .ok place ↔ _
    constructor
    · intro h
      exact ⟨start, rfl, h⟩
    · rintro ⟨next, hnext, h⟩
      obtain rfl := Except.ok.inj hnext
      exact h
  | cons part front ih =>
    simp only [List.cons_append, followAll_cons_eq_ok_iff, ih]
    constructor
    · rintro ⟨first, hfirst, next, hnext, h⟩
      exact ⟨next, ⟨first, hfirst, hnext⟩, h⟩
    · rintro ⟨next, ⟨first, hfirst, hnext⟩, h⟩
      exact ⟨first, hfirst, next, hnext, h⟩

/-- Names are followed to the place that they make with the directory they start
    from. -/
theorem eq_append_of_followAll {disk : Disk} {start place : Place} {names : List Text}
    (hnames : ∀ name ∈ names, isName name = true) (h : disk.followAll start names = .ok place) :
    place = start ++ names := by
  induction names generalizing start with
  | nil =>
    rw [List.append_nil]
    exact (Except.ok.inj h).symm
  | cons name rest ih =>
    obtain ⟨next, hfirst, hrest⟩ := followAll_cons_eq_ok_iff.1 h
    have hnext := child_eq_ok ((follow_name_iff (hnames name (by simp))).1 hfirst).2.1
    have hnames' : ∀ other ∈ rest, isName other = true := by
      intro other hmem
      exact hnames other (List.mem_cons_of_mem name hmem)
    rw [ih hnames' hrest, hnext, List.append_assoc, List.singleton_append]

/-- A path leads to a place if it can be a path at all and its parts lead
    there. -/
theorem locate_eq_ok_iff {disk : Disk} {path : Path} {place : Place} :
    disk.locate path = .ok place ↔
      checkPath path = .ok () ∧ disk.followAll (disk.start path) (Path.parts path) = .ok place := by
  unfold locate
  rw [bind_eq_ok_iff]
  constructor
  · rintro ⟨⟨⟩, hcheck, h⟩
    exact ⟨hcheck, h⟩
  · rintro ⟨hcheck, h⟩
    exact ⟨(), hcheck, h⟩

/-- A path of names neither is empty nor starts with a slash. -/
theorem relative_of_names {path : Path} (h : ∀ part ∈ Path.parts path, isName part = true) :
    path ≠ [] ∧ Path.isAbsolute path = false := by
  cases path with
  | nil => exact absurd (h [] (by decide)) (by decide)
  | cons c rest =>
    refine ⟨List.cons_ne_nil c rest, ?_⟩
    cases habsolute : Path.isAbsolute (c :: rest) with
    | false => rfl
    | true =>
      have hc : c = '/' := by simpa [Path.isAbsolute] using habsolute
      have hcut : Path.parts (c :: rest) = Text.split '/' [] ++ Text.split '/' rest := by
        rw [hc]
        exact Text.split_append_cons '/' [] rest
      have hfirst : [] ∈ Path.parts (c :: rest) := by
        rw [hcut]
        exact List.mem_append_left _ (by decide)
      exact absurd (h [] hfirst) (by decide)

/-- **Names in a directory lead to different places.**  When two paths into a
    directory are made of names only and lead to one place, they are the same
    path. -/
theorem eq_of_locate_join {disk : Disk} {directory path other : Path} {place : Place}
    (hpath : ∀ part ∈ Path.parts path, isName part = true)
    (hother : ∀ part ∈ Path.parts other, isName part = true)
    (h : disk.locate (Path.join directory path) = .ok place)
    (h' : disk.locate (Path.join directory other) = .ok place) : path = other := by
  obtain ⟨front, hfront⟩ := Path.exists_parts_join directory
  have hfirst := hfront path (relative_of_names hpath).1 (relative_of_names hpath).2
  have hsecond := hfront other (relative_of_names hother).1 (relative_of_names hother).2
  have hstart : disk.start (Path.join directory other) = disk.start (Path.join directory path) := by
    unfold start
    rw [hfirst.2, hsecond.2]
  obtain ⟨-, hleads⟩ := locate_eq_ok_iff.1 h
  obtain ⟨-, hleads'⟩ := locate_eq_ok_iff.1 h'
  rw [hfirst.1, followAll_append_eq_ok_iff] at hleads
  rw [hstart, hsecond.1, followAll_append_eq_ok_iff] at hleads'
  obtain ⟨base, hbase, hnames⟩ := hleads
  obtain ⟨base', hbase', hnames'⟩ := hleads'
  rw [hbase, Except.ok.injEq] at hbase'
  subst hbase'
  have hplace := (eq_append_of_followAll hpath hnames).symm.trans
    (eq_append_of_followAll hother hnames')
  exact Path.parts_inj (List.append_cancel_left hplace)

/-! ## Later disks -/

/-- What is there stays there: directories stay directories, and no place gets
    empty. -/
structure Grows (before after : Disk) : Prop where
  workingDirectory : after.workingDirectory = before.workingDirectory
  directory : ∀ place, before.node? place = some .directory → after.node? place = some .directory
  present : ∀ place, (before.node? place).isSome = true → (after.node? place).isSome = true

theorem Grows.follow {before after : Disk} (h : before.Grows after) {place there : Place}
    {part : Text} (hfollow : before.follow place part = .ok there) :
    after.follow place part = .ok there := by
  have hdirectory := directory_of_follow hfollow
  rw [follow_of_directory hdirectory] at hfollow
  rw [follow_of_directory (h.directory place hdirectory)]
  split at hfollow
  next hstay => rwa [if_pos hstay]
  next hstay =>
    rw [if_neg hstay]
    split at hfollow
    next hup => rwa [if_pos hup]
    next hup =>
      rw [if_neg hup]
      rw [bind_eq_ok_iff] at hfollow ⊢
      obtain ⟨found, hchild, hfound⟩ := hfollow
      refine ⟨found, hchild, ?_⟩
      split at hfound
      next hsome => rwa [if_pos (h.present found hsome)]
      · cases hfound

/-- **Paths keep leading where they lead.** -/
theorem Grows.followAll {before after : Disk} (h : before.Grows after) {start place : Place}
    {parts : List Text} (hfollow : before.followAll start parts = .ok place) :
    after.followAll start parts = .ok place := by
  induction parts generalizing start with
  | nil => exact hfollow
  | cons part rest ih =>
    obtain ⟨next, hfirst, hrest⟩ := followAll_cons_eq_ok_iff.1 hfollow
    exact followAll_cons_eq_ok_iff.2 ⟨next, h.follow hfirst, ih hrest⟩

theorem Grows.start {before after : Disk} (h : before.Grows after) (path : Path) :
    after.start path = before.start path := by
  unfold Disk.start
  rw [h.workingDirectory]

theorem Grows.locate {before after : Disk} (h : before.Grows after) {path : Path} {place : Place}
    (hlocate : before.locate path = .ok place) : after.locate path = .ok place := by
  obtain ⟨hcheck, hfollow⟩ := locate_eq_ok_iff.1 hlocate
  refine locate_eq_ok_iff.2 ⟨hcheck, ?_⟩
  rw [h.start]
  exact h.followAll hfollow

/-- Putting something at a place where no directory is leaves the others. -/
theorem grows_put {disk : Disk} {place : Place} (hplace : place ≠ [])
    (hdirectory : disk.isDirectoryAt place = false) (node : Node) :
    disk.Grows (disk.put place node) where
  workingDirectory := rfl
  directory other h := by
    have hother : other ≠ place := by
      rintro rfl
      rw [isDirectoryAt_iff.2 h] at hdirectory
      cases hdirectory
    rwa [node?_put hplace, if_neg hother]
  present other h := by
    rw [node?_put hplace]
    split
    · rfl
    · exact h

/-! ## Writing -/

/-- **What writing does.**  It puts the text at the place that the path leads to
    from then on, where no directory was. -/
theorem exists_of_writeText {disk after : Disk} {path : Path} {text : Text}
    (h : disk.writeText path text = .ok after) :
    ∃ place, place ≠ [] ∧ disk.isDirectoryAt place = false ∧
      after = disk.put place (.file (encode text)) ∧ after.locate path = .ok place := by
  obtain ⟨front, name, hparts⟩ := (List.eq_nil_or_concat (Path.parts path)).resolve_left
    (Path.parts_ne_nil path)
  rw [List.concat_eq_append] at hparts
  have hcut : splitLast (Path.parts path) = (front, name) := by simp [splitLast, hparts]
  unfold writeText at h
  simp only [hcut, bind_eq_ok_iff, enter_eq_ok_iff] at h
  obtain ⟨⟨⟩, hcheck, place, hfollow, parent, ⟨hparent, hplace⟩, h⟩ := h
  subst hplace
  split at h
  next hname =>
    obtain ⟨there, hchild, h⟩ := bind_eq_ok_iff.1 h
    split at h
    · cases h
    next hdirectory =>
      have hthere : there ≠ [] := by simp [child_eq_ok hchild]
      have hfree : disk.isDirectoryAt there = false := by simpa using hdirectory
      have hgrows := grows_put hthere hfree (.file (encode text))
      obtain rfl := Except.ok.inj h
      refine ⟨there, hthere, hfree, rfl, locate_eq_ok_iff.2 ⟨hcheck, ?_⟩⟩
      -- The parent is found as before, and in it the name now leads to the file.
      rw [hgrows.start, hparts, followAll_append_eq_ok_iff]
      refine ⟨parent, hgrows.followAll hfollow, followAll_cons_eq_ok_iff.2 ⟨there, ?_, rfl⟩⟩
      refine (follow_name_iff hname).2 ⟨hgrows.directory parent hparent, hchild, ?_⟩
      rw [node?_put hthere, if_pos rfl]
      rfl
  · cases h

/-- A text that stands at a place is read by every path to the place. -/
theorem readText_of_locate {disk : Disk} {path : Path} {place : Place} {text : Text}
    (hlocate : disk.locate path = .ok place)
    (hnode : disk.node? place = some (.file (encode text))) : disk.readText path = .ok text := by
  unfold readText
  rw [bind_eq_ok_iff]
  refine ⟨place, hlocate, ?_⟩
  simp only [hnode, decode?_encode]

end Disk

end Casebook.Files
