import MessageCard.Proofs.FileNames
import MessageCard.Proofs.SuiteOrder

/-! Which files a suite holds.  The search below a folder finds the files to which names lead and
that have the ending of fixtures, each of them once, in whatever order folders list their entries.
A name that is no text has no ending, and nothing is found in a folder that is not listed.
-/

namespace MessageCard

-----------------------------------------------------------------------------------------
-- Folders
-----------------------------------------------------------------------------------------

namespace FileTree

/-- The tree is that of a folder, whether it can be listed or not. -/
def IsFolder : FileTree → Prop
  | file _ => False
  | folder _ => True
  | unlisted => True

/-- The names of folders lead, from the entries of the outermost one, to a file.  A folder that is
not listed leads nowhere.
-/
inductive Leads
    : List (FileName × FileTree) → List FileName → FileName → Except ReadError String → Prop
  | file {entries : List (FileName × FileTree)} {name : FileName}
      {content : Except ReadError String}
      (listed : (name, .file content) ∈ entries)
      : Leads entries [] name content
  | folder {entries inner : List (FileName × FileTree)} {first : FileName}
      {below : List FileName} {name : FileName} {content : Except ReadError String}
      (listed : (first, .folder inner) ∈ entries) (inside : Leads inner below name content)
      : Leads entries (first :: below) name content

/-- No folder lists two entries of one name. -/
inductive Distinct : List (FileName × FileTree) → Prop
  | nil : Distinct []
  | file {name : FileName} {content : Except ReadError String} {rest : List (FileName × FileTree)}
      (absent : name ∉ rest.map Prod.fst) (others : Distinct rest)
      : Distinct ((name, .file content) :: rest)
  | unlisted {name : FileName} {rest : List (FileName × FileTree)}
      (absent : name ∉ rest.map Prod.fst) (others : Distinct rest)
      : Distinct ((name, .unlisted) :: rest)
  | folder {name : FileName} {inner rest : List (FileName × FileTree)}
      (absent : name ∉ rest.map Prod.fst) (inside : Distinct inner) (others : Distinct rest)
      : Distinct ((name, .folder inner) :: rest)

/-- The same files and folders, with the entries of each folder in some other order. -/
inductive Relisted : List (FileName × FileTree) → List (FileName × FileTree) → Prop
  | nil : Relisted [] []
  | same {entry : FileName × FileTree} {rest others : List (FileName × FileTree)}
      (later : Relisted rest others)
      : Relisted (entry :: rest) (entry :: others)
  | folder {name : FileName} {inner moved rest others : List (FileName × FileTree)}
      (inside : Relisted inner moved) (later : Relisted rest others)
      : Relisted ((name, .folder inner) :: rest) ((name, .folder moved) :: others)
  | swap {first second : FileName × FileTree} {rest : List (FileName × FileTree)}
      : Relisted (first :: second :: rest) (second :: first :: rest)
  | trans {entries middle others : List (FileName × FileTree)} (front : Relisted entries middle)
      (back : Relisted middle others)
      : Relisted entries others

variable {entries others inner rest : List (FileName × FileTree)} {entry : FileName × FileTree}
  {name : FileName} {below folders : List FileName} {content : Except ReadError String}

theorem leads_cons
    : Leads (entry :: rest) below name content
      ↔ Leads [entry] below name content ∨ Leads rest below name content := by
  constructor
  · intro leads
    cases leads with
    | file listed =>
        rcases List.mem_cons.mp listed with first | later
        · exact .inl (.file (List.mem_singleton.mpr first))
        · exact .inr (.file later)
    | folder listed inside =>
        rcases List.mem_cons.mp listed with first | later
        · exact .inl (.folder (List.mem_singleton.mpr first) inside)
        · exact .inr (.folder later inside)
  · rintro (leads | leads)
    · cases leads with
      | file listed => exact .file (List.mem_singleton.mp listed ▸ List.mem_cons_self)
      | folder listed inside =>
          exact .folder (List.mem_singleton.mp listed ▸ List.mem_cons_self) inside
    · cases leads with
      | file listed => exact .file (List.mem_cons_of_mem _ listed)
      | folder listed inside => exact .folder (List.mem_cons_of_mem _ listed) inside

theorem leads_file {listed : FileName} {text : Except ReadError String}
    : Leads [(listed, .file text)] below name content
      ↔ below = [] ∧ name = listed ∧ content = text := by
  constructor
  · intro leads
    cases leads with
    | file member =>
        cases List.mem_singleton.mp member
        exact ⟨rfl, rfl, rfl⟩
    | folder member _ => cases List.mem_singleton.mp member
  · rintro ⟨rfl, rfl, rfl⟩
    exact .file List.mem_cons_self

theorem leads_folder {listed : FileName}
    : Leads [(listed, .folder inner)] below name content
      ↔ ∃ more, below = listed :: more ∧ Leads inner more name content := by
  constructor
  · intro leads
    cases leads with
    | file member => cases List.mem_singleton.mp member
    | folder member inside =>
        cases List.mem_singleton.mp member
        exact ⟨_, rfl, inside⟩
  · rintro ⟨more, rfl, inside⟩
    exact .folder List.mem_cons_self inside

theorem not_leads_unlisted {listed : FileName}
    : ¬ Leads [(listed, .unlisted)] below name content := by
  intro leads
  cases leads with
  | file member => cases List.mem_singleton.mp member
  | folder member _ => cases List.mem_singleton.mp member

/-- The first name on the way to a file is that of an entry. -/
theorem Leads.first_listed (leads : Leads entries below name content)
    : ∃ first more, below ++ [name] = first :: more ∧ first ∈ entries.map Prod.fst := by
  cases leads with
  | file listed => exact ⟨name, [], rfl, List.mem_map_of_mem listed⟩
  | folder listed _ => exact ⟨_, _, rfl, List.mem_map_of_mem listed⟩

-----------------------------------------------------------------------------------------
-- The search
-----------------------------------------------------------------------------------------

variable {file : FixtureFile}

mutual

theorem mem_fixtures_iff (folders : List FileName) (name : FileName) (tree : FileTree)
    : file ∈ tree.fixtures folders name
      ↔ FixtureFile.isNamed file.name = true
        ∧ ∃ below,
            file.folders = folders ++ below
            ∧ Leads [(name, tree)] below file.name file.content := by
  cases tree with
  | file content =>
      rw [fixtures]
      constructor
      · intro listed
        split at listed
        · rename_i named
          cases List.mem_singleton.mp listed
          exact ⟨named, [], (List.append_nil _).symm, leads_file.mpr ⟨rfl, rfl, rfl⟩⟩
        · cases listed
      · rintro ⟨named, below, split, leads⟩
        obtain ⟨rfl, rfl, rfl⟩ := leads_file.mp leads
        rw [if_pos named, ← List.append_nil folders, ← split]
        exact List.mem_singleton_self _
  | folder inner =>
      rw [fixtures, mem_fixturesIn_iff]
      refine and_congr_right fun _ => ⟨?_, ?_⟩
      · rintro ⟨below, split, leads⟩
        rw [List.append_assoc] at split
        exact ⟨name :: below, split, leads_folder.mpr ⟨below, rfl, leads⟩⟩
      · rintro ⟨_, split, leads⟩
        obtain ⟨below, rfl, inside⟩ := leads_folder.mp leads
        refine ⟨below, ?_, inside⟩
        rw [split, List.append_assoc]
        rfl
  | unlisted =>
      rw [fixtures]
      exact iff_of_false List.not_mem_nil fun ⟨_, _, _, leads⟩ => not_leads_unlisted leads

/-- The fixtures found below a folder are the files to which its entries lead, if their names have
the ending.  By recursion over the tree.
-/
theorem mem_fixturesIn_iff (folders : List FileName) (entries : List (FileName × FileTree))
    : file ∈ fixturesIn folders entries
      ↔ FixtureFile.isNamed file.name = true
        ∧ ∃ below,
            file.folders = folders ++ below ∧ Leads entries below file.name file.content := by
  cases entries with
  | nil =>
      refine ⟨nofun, ?_⟩
      rintro ⟨_, below, _, leads⟩
      obtain ⟨_, _, _, absent⟩ := leads.first_listed
      cases absent
  | cons entry rest =>
      obtain ⟨name, tree⟩ := entry
      rw [fixturesIn, List.mem_append, mem_fixtures_iff, mem_fixturesIn_iff, ← and_or_left,
        ← exists_or]
      refine and_congr_right fun _ => exists_congr fun below => ?_
      rw [← and_or_left]
      exact and_congr_right fun _ => leads_cons.symm

end

/-- No two fixtures that are found have the same names, by induction over the entries: what is found
in one of them has its name in front, and no other entry has this name.
-/
theorem Distinct.paths_nodup (distinct : Distinct entries)
    : ((fixturesIn folders entries).map FixtureFile.path).Nodup := by
  have apart {name : FileName} {rest : List (FileName × FileTree)}
      (absent : name ∉ rest.map Prod.fst) {folders more : List FileName}
      : folders ++ name :: more ∉ (fixturesIn folders rest).map FixtureFile.path := by
    intro found
    obtain ⟨file, listed, same⟩ := List.mem_map.mp found
    obtain ⟨_, below, split, leads⟩ := (mem_fixturesIn_iff _ _).mp listed
    obtain ⟨first, more, start, member⟩ := leads.first_listed
    rw [FixtureFile.path, split, List.append_assoc, start] at same
    cases List.append_cancel_left same
    exact absent member
  induction distinct generalizing folders with
  | nil => exact .nil
  | @file name content rest absent others ih =>
      rw [fixturesIn, fixtures]
      split
      · exact List.nodup_cons.mpr ⟨apart absent, ih⟩
      · exact ih
  | @unlisted name rest absent others ih =>
      rw [fixturesIn, fixtures, List.nil_append]
      exact ih
  | @folder name inner rest absent inside others insideIh othersIh =>
      rw [fixturesIn, fixtures, List.map_append, List.nodup_append]
      refine ⟨insideIh, othersIh, ?_⟩
      intro path found another elsewhere same
      subst same
      obtain ⟨file, listed, rfl⟩ := List.mem_map.mp found
      obtain ⟨_, below, split, _⟩ := (mem_fixturesIn_iff _ _).mp listed
      apply apart absent
      rw [FixtureFile.path, split, List.append_assoc, List.append_assoc] at elsewhere
      exact elsewhere

/-- The same fixtures are found in whatever order the entries are listed, by induction over the
changes to the listing.
-/
theorem Relisted.fixturesIn_perm (relisted : Relisted entries others)
    : (fixturesIn folders entries).Perm (fixturesIn folders others) := by
  induction relisted generalizing folders with
  | nil => exact .refl _
  | same later ih =>
      rw [fixturesIn, fixturesIn]
      exact ih.append_left _
  | folder inside later insideIh laterIh =>
      rw [fixturesIn, fixturesIn, fixtures, fixtures]
      exact insideIh.append laterIh
  | swap =>
      rw [fixturesIn, fixturesIn, fixturesIn, fixturesIn]
      exact List.perm_append_comm_assoc _ _ _
  | trans front back frontIh backIh => exact frontIh.trans backIh

/-- A fixture below a folder: folders that are listed lead to it, and its name is a text with the
ending.
-/
def Discovers (entries : List (FileName × FileTree)) (file : FixtureFile) : Prop :=
  Leads entries file.folders file.name file.content
  ∧ ∃ text : String, file.name = text ∧ ".test.json".toList <:+ text.toList

theorem isNamed_iff
    : FixtureFile.isNamed name = true
      ↔ ∃ text : String, name = text ∧ ".test.json".toList <:+ text.toList := by
  rw [FixtureFile.isNamed, Option.any_eq_true]
  simp only [FileName.text?_eq_some_iff, List.isSuffixOf_iff_suffix, FixtureFile.ending]

theorem mem_fixtureFiles_iff {tree : FileTree}
    : file ∈ tree.fixtureFiles ↔ Discovers tree.listing file := by
  rw [fixtureFiles, mem_fixturesIn_iff, isNamed_iff, and_comm]
  refine and_congr_left fun _ => ?_
  simp only [List.nil_append, exists_eq_left']

end FileTree

end MessageCard
