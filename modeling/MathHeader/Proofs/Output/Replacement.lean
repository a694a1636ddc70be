import MathHeader.Output.Replacement
import MathHeader.Proofs.Text.OneLine
import Mathlib.Data.List.TakeWhile

/-!
# Replacing a file or nothing

A header is written to a temporary file that then takes the place of the file it is meant for.  What
the temporary file is called, how much of a text gets into it and whether it can be moved is up to
the system; `TemporaryFiles` is a system, with all that can be relied on: a new file has a name of
its own, a text that is said to be written is written, and nothing takes the place of a folder.

Whatever the system decides, there are three ends (`Ends`, `TemporaryFiles.ends_replace`).  The file
has the text of the header and all else is as it was; or nothing could be written, and nothing has
changed; or the file that was written could not be moved.  In the last case the failure that is
returned holds that file, which stands beside everything that was there before, so that at return
it is not all or nothing (`not_allOrNothing_writeArtifact`).  It is when the failure has been given
up, and with it the file: `Ends.allOrNothing_settled`.

`writeArtifact` is an attempt with names that are longer than all others, in which a text is written
if it fits and a file is moved to every place that no folder has.  So it is known when it succeeds:
`writeArtifact_outcome`.
-/

namespace MathHeader

namespace FileTree

variable {t : FileTree} {l m : Location} {path : String}

/-! ## Trees with one more file -/

lemma put_put (l : Location) (e e' : Entry) : (t.put l e).put l e' = t.put l e' := by
  simp [put]

lemma remove_put_eq_remove (l : Location) (e : Entry) : (t.put l e).remove l = t.remove l := by
  simp [put, remove]

lemma ne_nil_of_at?_eq_none (h : t.at? l = none) : l ≠ [] := by
  rintro rfl
  cases h

/-- Where nothing was, nothing is left of an entry that is removed again. -/
lemma remove_put (h : t.at? l = none) (e : Entry) : (t.put l e).remove l = t := by
  have hlookup : t.entries.lookup l = none := by
    rwa [at?, if_neg (by simpa using ne_nil_of_at?_eq_none h)] at h
  have hentries : t.entries.filter (·.1 != l) = t.entries := by
    refine List.filter_eq_self.2 fun p hp => ?_
    rw [bne_comm]
    exact List.lookup_eq_none_iff.1 hlookup p hp
  rw [remove_put_eq_remove, remove, hentries]

lemma isFolder_eq_false_of_at?_eq_none (h : t.at? l = none) : t.isFolder l = false := by
  rw [isFolder, h]
  rfl

/-- A file that takes no folder's place changes no folder. -/
lemma isFolder_put_file (hl : l ≠ []) (h : t.isFolder l = false) (content : String)
    (m : Location) : (t.put l (.file content)).isFolder m = t.isFolder m := by
  by_cases hm : m = l
  · subst hm
    rw [h, isFolder, at?_put hl, if_pos rfl]
    rfl
  · rw [isFolder, isFolder, at?_put hl, if_neg hm]

/-- A file where nothing was changes no folder. -/
lemma isFolder_put_of_at?_eq_none (h : t.at? l = none) (content : String) (m : Location) :
    (t.put l (.file content)).isFolder m = t.isFolder m :=
  isFolder_put_file (ne_nil_of_at?_eq_none h) (isFolder_eq_false_of_at?_eq_none h) content m

/-! ## Where paths lead -/

section Congruence

variable {t' : FileTree} (hfolder : ∀ l, t'.isFolder l = t.isFolder l)
include hfolder

/-- A way leads to the same folder in every tree with the same folders. -/
lemma walk_congr (l : Location) (names : List String) : t'.walk l names = t.walk l names := by
  induction names generalizing l with
  | nil => rfl
  | cons name names ih => simp only [walk, hfolder, ih]

lemma parent?_congr (hworking : t'.workingFolder = t.workingFolder) (path : String) :
    t'.parent? path = t.parent? path := by
  have hstart : t'.start path = t.start path := by rw [start, start, hworking]
  rw [parent?, parent?, hworking, hstart]
  simp only [walk_congr hfolder]

lemma fileLocation?_congr (hworking : t'.workingFolder = t.workingFolder) (path : String) :
    t'.fileLocation? path = t.fileLocation? path := by
  rw [fileLocation?, fileLocation?, parent?_congr hfolder hworking]

end Congruence

lemma isFolder_of_walk {names : List String} (hl : t.isFolder l = true)
    (h : t.walk l names = some m) : t.isFolder m = true := by
  induction names generalizing l with
  | nil =>
      cases h
      exact hl
  | cons name names ih =>
      rw [walk] at h
      by_cases hnext : t.isFolder (if name = ".." then l.dropLast else l ++ [name]) = true
      · rw [if_pos hnext] at h
        exact ih hnext h
      · rw [if_neg hnext] at h
        cases h

lemma isFolder_of_parent? (hworking : t.isFolder t.workingFolder = true)
    (h : t.parent? path = some l) : t.isFolder l = true := by
  have hstart : t.isFolder (t.start path) = true := by
    unfold start
    split
    next => rfl
    next => exact hworking
  unfold parent? at h
  split at h
  next =>
    cases h
    exact hworking
  next =>
    split at h
    next => exact isFolder_of_walk hstart h
    next => cases h

lemma exists_of_fileLocation? (h : t.fileLocation? path = some l) :
    ∃ folder name, t.parent? path = some folder ∧ l = folder ++ [name] := by
  obtain ⟨name, -, h⟩ := Option.bind_eq_some_iff.1 h
  split at h
  next =>
    obtain ⟨folder, hfolder, h⟩ := Option.bind_eq_some_iff.1 h
    cases h
    exact ⟨folder, name, hfolder, rfl⟩
  next => cases h

/-! ## Paths without a folder -/

/-- **A path without a folder.**  It has no name, or one only, and then it does not start at the
root. -/
def IsBare (path : String) : Prop :=
  pathNames path = [] ∨ (pathNames path).length = 1 ∧ path.toList.head? ≠ some '/'

instance (path : String) : Decidable (IsBare path) :=
  inferInstanceAs (Decidable (_ ∨ _))

/-- Parts that lead nowhere are not counted. -/
lemma filter_dropWhile_not {α : Type} (p : α → Bool) (xs : List α) :
    (xs.dropWhile (!p ·)).filter p = xs.filter p := by
  induction xs with
  | nil => rfl
  | cons x xs ih =>
      by_cases hx : p x = true
      · rw [List.dropWhile_cons_of_neg (by simp [hx])]
      · rw [List.dropWhile_cons_of_pos (by simpa using hx), List.filter_cons_of_neg hx, ih]

lemma parentPath_eq_empty (h : (pathNames path).length = 1) : parentPath path = "" := by
  have hcount : ((pathParts path).reverse.filter isStep).length = 1 := by
    rw [List.filter_reverse, List.length_reverse]
    exact h
  rw [← filter_dropWhile_not] at hcount
  -- Behind the only name, seen from the end, all parts lead nowhere.
  have hrest : (((pathParts path).reverse.dropWhile (!isStep ·)).drop 1).dropWhile (!isStep ·) =
      [] := by
    cases hparts : (pathParts path).reverse.dropWhile (!isStep ·) with
    | nil => rfl
    | cons name rest =>
        have hname : isStep name = true := by
          have hhead := List.head?_dropWhile_not (!isStep ·) (pathParts path).reverse
          rw [hparts] at hhead
          simpa using hhead
        rw [hparts, List.filter_cons_of_pos hname, List.length_cons, Nat.succ_inj,
          List.length_eq_zero_iff, List.filter_eq_nil_iff] at hcount
        refine List.dropWhile_eq_nil_iff.2 fun part hpart => ?_
        simpa using hcount part hpart
  rw [parentPath, hrest]
  rfl

lemma start_of_head?_ne (h : path.toList.head? ≠ some '/') : t.start path = t.workingFolder := by
  unfold start
  split
  next _ rest hparts =>
    rw [pathParts] at hparts
    cases hpath : path.toList with
    | nil =>
        rw [hpath] at hparts
        cases hparts
    | cons c cs =>
        have hc : c ≠ '/' := by
          rintro rfl
          exact h (by rw [hpath]; rfl)
        obtain ⟨p, ps, hpieces⟩ := List.exists_cons_of_ne_nil (Text.pieces_ne_nil '/' cs)
        rw [hpath, Text.pieces_cons, hpieces, Text.extendPieces, if_neg hc, List.map_cons] at hparts
        have hempty := congrArg String.toList (List.cons.inj hparts).1
        rw [String.toList_ofList] at hempty
        cases hempty
  next => rfl

/-- **A path without a folder** has the working folder. -/
lemma parent?_of_isBare (t : FileTree) (h : IsBare path) :
    t.parent? path = some t.workingFolder := by
  rcases h with h | ⟨hlength, hhead⟩
  · rw [parent?, h]
  · obtain ⟨name, hname⟩ := List.length_eq_one_iff.1 hlength
    rw [parent?, hname]
    dsimp only
    rw [parentPath_eq_empty hlength, if_pos (by decide), start_of_head?_ne hhead]
    rfl

end FileTree

/-! ## Attempts -/

/-- **A system that makes temporary files.**  The three functions are its decisions, of which only
the three laws are known. -/
structure TemporaryFiles where
  /-- The name of a new file in a folder, if one can be made there. -/
  name? : FileTree → Location → Option String
  /-- What is in a file after a text was written to it, and whether writing succeeded. -/
  written : FileTree → Location → String → String × Bool
  /-- Whether a file can be moved from the first location to the second. -/
  moves : FileTree → Location → Location → Bool
  /-- Nothing is where a new file is made. -/
  name?_fresh : ∀ {t folder name}, name? t folder = some name → t.at? (folder ++ [name]) = none
  /-- A text that was written successfully is there. -/
  written_eq : ∀ {t l text}, (written t l text).2 = true → (written t l text).1 = text
  /-- No file takes the place of a folder. -/
  moves_spares : ∀ {t source target}, moves t source target = true → t.isFolder target = false

namespace TemporaryFiles

variable (s : TemporaryFiles)

/-- Moves the temporary file at `source` to the place that a path ends in.  Without such a place the
failure holds the file. -/
def place (t : FileTree) (source : Location) (content path : String) :
    Except OutputError Unit × FileTree :=
  match t.fileLocation? path with
  | some target =>
    if s.moves t source target then (.ok (), (t.remove source).put target (.file content))
    else (.error (.unplaced source), t)
  | none => (.error (.unplaced source), t)

/-- Attempts to replace the file that a path leads to by one with a given text.  A temporary file
that could not be filled is removed at once. -/
def replace (t : FileTree) (path text : String) : Except OutputError Unit × FileTree :=
  match t.parent? path with
  | none => (.error .unwritten, t)
  | some folder =>
    match s.name? t folder with
    | none => (.error .unwritten, t)
    | some name =>
      let temporary := folder ++ [name]
      let created := t.put temporary (.file "")
      let written := s.written created temporary text
      let filled := created.put temporary (.file written.1)
      if written.2 then s.place filled temporary written.1 path
      else (.error .unwritten, filled.remove temporary)

end TemporaryFiles

/-! ## Ends of an attempt -/

/-- **A replaced file.**  The path leads to a file with the text, and everything but that file is as
it was. -/
structure FileReplaced (t : FileTree) (path text : String) (t' : FileTree) : Prop where
  read?_eq : t'.read? path = some text
  exists_target : ∃ target, t.fileLocation? path = some target ∧
    ∀ l, l ≠ target → t'.at? l = t.at? l
  workingFolder_eq : t'.workingFolder = t.workingFolder
  fileLimit_eq : t'.fileLimit = t.fileLimit

/-- **All or nothing.**  A success has replaced the file, and a failure has changed nothing. -/
def AllOrNothing (t : FileTree) (path text : String) : Except OutputError Unit × FileTree → Prop
  | (.ok (), t') => FileReplaced t path text t'
  | (.error _, t') => t' = t

/-- **The ends of an attempt**, with the tree at return. -/
inductive Ends (t : FileTree) (path text : String) : Except OutputError Unit × FileTree → Prop
  | replaced {t' : FileTree} (h : FileReplaced t path text t') : Ends t path text (.ok (), t')
  | unwritten : Ends t path text (.error .unwritten, t)
  /-- The failure holds a file with the whole text, where nothing was before. -/
  | unplaced {folder : Location} {name : String} (hfolder : t.parent? path = some folder)
      (hfree : t.at? (folder ++ [name]) = none) :
      Ends t path text
        (.error (.unplaced (folder ++ [name])), t.put (folder ++ [name]) (.file text))

/-- When the result is given up it has been all or nothing. -/
theorem Ends.allOrNothing_settled {t : FileTree} {path text : String}
    {r : Except OutputError Unit × FileTree} (h : Ends t path text r) :
    AllOrNothing t path text (settled r) := by
  cases h with
  | replaced h => exact h
  | unwritten => exact rfl
  | unplaced _ hfree => exact FileTree.remove_put hfree (.file text)

lemma fileReplaced_put {t : FileTree} {path : String} {target : Location}
    (hpath : t.fileLocation? path = some target) (htarget : t.isFolder target = false)
    (text : String) : FileReplaced t path text (t.put target (.file text)) := by
  obtain ⟨folder, name, -, rfl⟩ := FileTree.exists_of_fileLocation? hpath
  have hne : folder ++ [name] ≠ [] := List.concat_ne_nil name folder
  have hsame : (t.put (folder ++ [name]) (.file text)).fileLocation? path =
      some (folder ++ [name]) := by
    rw [FileTree.fileLocation?_congr (FileTree.isFolder_put_file hne htarget text) rfl, hpath]
  refine ⟨?_, ⟨_, hpath, fun l hl => ?_⟩, rfl, rfl⟩
  · rw [FileTree.read?, hsame]
    simp [FileTree.at?_put hne]
  · rw [FileTree.at?_put hne, if_neg hl]

namespace TemporaryFiles

variable (s : TemporaryFiles) {t : FileTree} {path : String}

/-- **The last step.**  A file that was filled where nothing had been is moved, or the failure holds
it. -/
lemma ends_place {folder : Location} {name : String} (hfolder : t.parent? path = some folder)
    (hfree : t.at? (folder ++ [name]) = none) (text : String) :
    Ends t path text
      (s.place (t.put (folder ++ [name]) (.file text)) (folder ++ [name]) text path) := by
  -- The new file is no folder, so the path leads where it led before.
  have hfolders := FileTree.isFolder_put_of_at?_eq_none hfree text
  rw [place, FileTree.fileLocation?_congr hfolders rfl]
  cases hpath : t.fileLocation? path with
  | none => exact .unplaced hfolder hfree
  | some target =>
      dsimp only
      by_cases hmoves :
          s.moves (t.put (folder ++ [name]) (.file text)) (folder ++ [name]) target = true
      · have htarget : t.isFolder target = false := by
          rw [← hfolders]
          exact s.moves_spares hmoves
        rw [if_pos hmoves, FileTree.remove_put hfree]
        exact .replaced (fileReplaced_put hpath htarget text)
      · rw [if_neg hmoves]
        exact .unplaced hfolder hfree

/-- **Every attempt ends** in one of the three ways, whatever the system decides. -/
theorem ends_replace (t : FileTree) (path text : String) :
    Ends t path text (s.replace t path text) := by
  rw [replace]
  cases hfolder : t.parent? path with
  | none => exact .unwritten
  | some folder =>
      dsimp only
      cases hname : s.name? t folder with
      | none => exact .unwritten
      | some name =>
          have hfree := s.name?_fresh hname
          dsimp only
          -- Whatever was written, it is the content of the new file, and nothing else has changed.
          rw [FileTree.put_put]
          split
          next hwritten =>
            rw [s.written_eq hwritten]
            exact s.ends_place hfolder hfree text
          next =>
            rw [FileTree.remove_put hfree]
            exact .unwritten

end TemporaryFiles

/-! ## Headers as files -/

namespace FileTree

/-- The place of a temporary file is free. -/
lemma at?_temporaryIn (t : FileTree) (folder : Location) : t.at? (t.temporaryIn folder) = none := by
  have hne : t.temporaryIn folder ≠ [] := List.concat_ne_nil _ folder
  rw [at?, if_neg (by simpa using hne), List.lookup_eq_none_iff]
  intro p hp
  refine bne_iff_ne.2 fun heq => ?_
  have hlast : p.1.getLast? =
      some (freshName (t.entries.filterMap (·.1.getLast?))) := by
    rw [← heq, temporaryIn, List.getLast?_append]
    rfl
  have hmem : freshName (t.entries.filterMap (·.1.getLast?)) ∈
      t.entries.filterMap (·.1.getLast?) := List.mem_filterMap.2 ⟨p, hp, hlast⟩
  exact freshName_not_mem _ hmem

end FileTree

namespace TemporaryFiles

/-- The system in which the name of a temporary file is longer than all others, a text is written if
it fits, and a file can be moved to where no folder is. -/
def longNames : TemporaryFiles where
  name? t _ := some (freshName (t.entries.filterMap (·.1.getLast?)))
  written t _ text := if t.fits text then (text, true) else ("", false)
  moves t _ target := t.canPlace target
  name?_fresh := by
    intro t folder name h
    cases h
    exact t.at?_temporaryIn folder
  written_eq := by
    intro t l text h
    by_cases hfits : t.fits text = true
    · rw [if_pos hfits]
    · rw [if_neg hfits] at h
      cases h
  moves_spares := by
    intro t source target h
    rw [FileTree.isFolder]
    exact beq_false_of_ne (bne_iff_ne.1 h)

lemma place_longNames (t : FileTree) (source : Location) (text path : String) :
    t.place source text path = longNames.place t source text path := by
  rw [FileTree.place, place]
  cases t.fileLocation? path with
  | none => rfl
  | some target =>
      dsimp only
      by_cases hplace : t.canPlace target = true
      · have hmoves : longNames.moves t source target = true := hplace
        rw [if_pos hplace, if_pos hmoves]
      · have hmoves : ¬longNames.moves t source target = true := hplace
        rw [if_neg hplace, if_neg hmoves]

/-- A file is replaced as in the system with long names. -/
theorem replace_longNames (t : FileTree) (path text : String) :
    t.replace path text = longNames.replace t path text := by
  rw [FileTree.replace, replace]
  cases t.parent? path with
  | none => rfl
  | some folder =>
      have hname : longNames.name? t folder =
          some (freshName (t.entries.filterMap (·.1.getLast?))) := rfl
      have htemporary : folder ++ [freshName (t.entries.filterMap (·.1.getLast?))] =
          t.temporaryIn folder := rfl
      dsimp only
      rw [hname]
      dsimp only
      rw [htemporary]
      by_cases hfits : (t.put (t.temporaryIn folder) (.file "")).fits text = true
      · have hwritten : longNames.written (t.put (t.temporaryIn folder) (.file ""))
            (t.temporaryIn folder) text = (text, true) := if_pos hfits
        rw [if_pos hfits, hwritten, place_longNames]
        rfl
      · have hwritten : longNames.written (t.put (t.temporaryIn folder) (.file ""))
            (t.temporaryIn folder) text = ("", false) := if_neg hfits
        rw [if_neg hfits, hwritten, FileTree.put_put]
        rfl

end TemporaryFiles

/-- **When a file is replaced.**  Without a folder for the file nothing can be written, and neither
can a text that does not fit.  What is written needs a place that no folder has. -/
lemma result_replace (t : FileTree) (path text : String) :
    (t.replace path text).1 =
      match t.parent? path with
      | none => .error .unwritten
      | some folder =>
        if t.fits text = false then .error .unwritten
        else if (t.fileLocation? path).any (!t.isFolder ·) then .ok ()
        else .error (.unplaced (t.temporaryIn folder)) := by
  rw [FileTree.replace]
  cases t.parent? path with
  | none => rfl
  | some folder =>
      have hcreated : (t.put (t.temporaryIn folder) (.file "")).fits text = t.fits text := rfl
      dsimp only
      rw [hcreated]
      by_cases hfits : t.fits text = true
      · have hfolders := FileTree.isFolder_put_of_at?_eq_none (t.at?_temporaryIn folder) text
        have hplaces (target : Location) :
            (t.put (t.temporaryIn folder) (.file text)).canPlace target = !t.isFolder target :=
          congrArg (!·) (hfolders target)
        rw [if_pos hfits, if_neg (by simp [hfits]), FileTree.put_put, FileTree.place,
          FileTree.fileLocation?_congr hfolders rfl]
        cases t.fileLocation? path with
        | none => rfl
        | some target =>
            dsimp only
            rw [hplaces, Option.any_some]
            split <;> rfl
      · rw [if_neg hfits, if_pos (Bool.eq_false_iff.2 hfits)]

/-- **A header as a file.**  Writing a header either makes it the content of the file that the path
leads to, all else being as before, or it fails; and when the failure has been given up, nothing at
all has changed.  At return nothing has changed either if the header could not be written; if it
could not be moved to its place, the failure holds a file with the text, which is new in the folder
of the path, and all else is as before.

It fails without a folder for the file, and if the header does not fit; and then if the path does
not end in the name of a file or ends in a folder.  The folder of a path is a folder of the tree,
and that of a path without a folder is the working folder.

So it is in every system of temporary files, of which writing a header uses one. -/
theorem writeArtifact_outcome (a : Artifact) (t : FileTree) (path : String) :
    AllOrNothing t path a.text (settled (writeArtifact a t path)) ∧
    Ends t path a.text (writeArtifact a t path) ∧
    ((writeArtifact a t path).1 =
      match t.parent? path with
      | none => .error .unwritten
      | some folder =>
        if t.fits a.text = false then .error .unwritten
        else if (t.fileLocation? path).any (!t.isFolder ·) then .ok ()
        else .error (.unplaced (t.temporaryIn folder))) ∧
    (t.isFolder t.workingFolder = true →
      ∀ folder, t.parent? path = some folder → t.isFolder folder = true) ∧
    (FileTree.IsBare path → t.parent? path = some t.workingFolder) ∧
    (∀ s : TemporaryFiles, Ends t path a.text (s.replace t path a.text) ∧
      AllOrNothing t path a.text (settled (s.replace t path a.text))) ∧
    writeArtifact a t path = TemporaryFiles.longNames.replace t path a.text := by
  have hlongNames : writeArtifact a t path = TemporaryFiles.longNames.replace t path a.text :=
    TemporaryFiles.replace_longNames t path a.text
  have hends (s : TemporaryFiles) : Ends t path a.text (s.replace t path a.text) :=
    s.ends_replace t path a.text
  have hheader : Ends t path a.text (writeArtifact a t path) := by
    rw [hlongNames]
    exact hends TemporaryFiles.longNames
  exact ⟨hheader.allOrNothing_settled, hheader, result_replace t path a.text,
    fun hworking folder => t.isFolder_of_parent? hworking, t.parent?_of_isBare,
    fun s => ⟨hends s, (hends s).allOrNothing_settled⟩, hlongNames⟩

/-- The old header gives way, and its neighbour stays. -/
example (stats : Stats) :
    writeArtifact ⟨"new", stats⟩
      ⟨[(["a"], .folder), (["a", "m.h"], .file "old"), (["a", "n.h"], .file "")], ["a"], some 3⟩
      "m.h" =
    (.ok (),
      ⟨[(["a", "m.h"], .file "new"), (["a"], .folder), (["a", "n.h"], .file "")], ["a"], some 3⟩) :=
  rfl

/-- A header with a line. -/
def smallHeader : Artifact :=
  ⟨"int x;\n", .zero⟩

/-- A tree whose only entry is a folder. -/
def onlyFolder : FileTree :=
  ⟨[(["d"], .folder)], [], none⟩

/-- **Not all or nothing at return.**  A header cannot take the place of a folder, and the failure
that says so still holds the file that the header was written to. -/
theorem not_allOrNothing_writeArtifact :
    writeArtifact smallHeader onlyFolder "d" =
        (.error (.unplaced [".t"]), ⟨[([".t"], .file "int x;\n"), (["d"], .folder)], [], none⟩) ∧
      ¬AllOrNothing onlyFolder "d" smallHeader.text (writeArtifact smallHeader onlyFolder "d") := by
  have hwrite : writeArtifact smallHeader onlyFolder "d" =
      (.error (.unplaced [".t"]), ⟨[([".t"], .file "int x;\n"), (["d"], .folder)], [], none⟩) := by
    decide
  refine ⟨hwrite, fun h => ?_⟩
  rw [hwrite] at h
  exact absurd (congrArg FileTree.entries h) (by decide)

end MathHeader
