import Mathlib.Control.Monad.Basic
import ScriptSuite.Proofs.Staging.Restoring

set_option autoImplicit false

namespace ScriptSuite.Staging

open CommandLine Config Dependency FileSystem FileSystem.Disk FileSystem.Place ScriptSuite.Path Script

def placeOf (components : List Component) : Place :=
  components.filterMap fun
    | .name text => some text
    | _ => none

theorem place_of_base (base : Place) : placeOf (baseComponents base) = base := by
  rw [placeOf, baseComponents, List.filterMap_cons_none rfl, List.filterMap_map]
  exact List.filterMap_some

theorem place_of_path (place : Place) (named : ∀ name ∈ place, IsName name) :
    placeOf (pathOf place).components = place := by
  rw [path_of_components place named]
  exact place_of_base place

-- The segments never lead out of `base`: no `..` is read at it.
def Confined (base : Place) : Place → List String → Prop
  | _, [] => True
  | here, segment :: rest => (segment = ".." → here ≠ base) ∧ Confined base (after here segment) rest

def decideConfined (base : Place) : (here : Place) → (segments : List String) → Decidable (Confined base here segments)
  | _, [] => .isTrue trivial
  | here, segment :: rest =>
      let _ := decideConfined base (after here segment) rest
      inferInstanceAs (Decidable ((segment = ".." → here ≠ base) ∧ Confined base (after here segment) rest))

instance (base here : Place) (segments : List String) : Decidable (Confined base here segments) :=
  decideConfined base here segments

theorem after_rebased (base other here : Place) (segment : String) (inside : segment = ".." → base ++ here ≠ base) :
    after (other ++ here) segment = other ++ after here segment := by
  unfold after
  split
  · rfl
  · split
    · rename_i parent
      have below : here ≠ [] := fun top => inside parent (by rw [top, List.append_nil])
      rw [List.dropLast_append_of_ne_nil below]
    · rw [List.append_assoc]

theorem confined_rebased (base other here : Place) (segments : List String)
    (confined : Confined base (base ++ here) segments) :
    arrival (other ++ here) segments = other ++ arrival here segments ∧
      passed (other ++ here) segments = (passed here segments).map (other ++ ·) := by
  induction segments generalizing here with
  | nil => exact ⟨rfl, rfl⟩
  | cons segment rest step =>
      rw [Confined, after_rebased base base here segment confined.1] at confined
      obtain ⟨arrives, passes⟩ := step (after here segment) confined.2
      rw [passed, passed, after_rebased base other here segment confined.1, List.map_cons, passes]
      refine ⟨?_, rfl⟩
      change arrival (after (other ++ here) segment) rest = other ++ arrival (after here segment) rest
      rw [after_rebased base other here segment confined.1, arrives]

section

variable (disk : Disk)

-- What one candidate must meet for a require to find it.
def Hit (here : Place) (segments : List String) : Prop :=
  disk.Passable here segments ∧ disk.kindAt (arrival here segments) = some .file

instance (here : Place) (segments : List String) : Decidable (Hit disk here segments) :=
  inferInstanceAs (Decidable (_ ∧ _))

theorem probe_hits (linkFree : disk.LinkFree) (extensions : List String) (directory : Path) (here : Place)
    (located : disk.locate directory = .ok here) (text : String)
    (relative : ∀ extension, isAbsolute ⟨text ++ extension⟩ = false) :
    probe disk extensions directory text = extensions.findSome? fun extension =>
      if Hit disk here (segments ⟨text ++ extension⟩) then
        some ⟨pathOf (arrival here (segments ⟨text ++ extension⟩)), extension⟩
      else none := by
  unfold probe
  congr 1
  funext extension
  obtain ⟨nonempty, lands, walks⟩ := join_walks linkFree directory ⟨text ++ extension⟩ here (relative extension) located
  have isFile := is_file_iff linkFree (directory.join ⟨text ++ extension⟩)
  rw [and_iff_right nonempty, walks, lands] at isFile
  by_cases hit : Hit disk here (segments ⟨text ++ extension⟩)
  · have canonical := (canonicalize_iff linkFree (directory.join ⟨text ++ extension⟩) _).mpr
      ⟨rfl, nonempty, walks.mpr hit.1, by rw [lands, hit.2]; simp⟩
    rw [if_pos (isFile.mpr hit), if_pos hit, canonical, lands]
  · rw [if_neg (mt isFile.mp hit), if_neg hit]

theorem probe_iff (linkFree : disk.LinkFree) (extensions : List String) (directory : Path) (here : Place)
    (located : disk.locate directory = .ok here) (text : String) (found : RequiredFile)
    (relative : ∀ extension, isAbsolute ⟨text ++ extension⟩ = false) :
    probe disk extensions directory text = some found ↔
      ∃ before after, extensions = before ++ found.extension :: after ∧
        (∀ extension ∈ before, ¬Hit disk here (segments ⟨text ++ extension⟩)) ∧
        Hit disk here (segments ⟨text ++ found.extension⟩) ∧
        found.path = pathOf (arrival here (segments ⟨text ++ found.extension⟩)) := by
  rw [probe_hits disk linkFree extensions directory here located text relative, List.findSome?_eq_some_iff]
  constructor
  · rintro ⟨before, extension, after, cut, hit, missed⟩
    split at hit
    · rename_i here_
      cases hit
      refine ⟨before, after, cut, fun other member there => ?_, here_, rfl⟩
      have none := missed other member
      rw [if_pos there] at none
      cases none
    · cases hit
  · rintro ⟨before, after, cut, missed, hit, path⟩
    refine ⟨before, found.extension, after, cut, ?_, fun other member => if_neg (missed other member)⟩
    rw [if_pos hit, ← path]

end

theorem dotted_relative (text extension : String)
    (dotted : ['.', '/'] <+: text.toList ∨ ['.', '.', '/'] <+: text.toList) :
    isAbsolute ⟨text ++ extension⟩ = false := by
  have first : ∃ rest, text.toList = '.' :: rest := by
    rcases dotted with ⟨rest, shape⟩ | ⟨rest, shape⟩
    · exact ⟨_, shape.symm⟩
    · exact ⟨_, shape.symm⟩
  obtain ⟨rest, shape⟩ := first
  rw [isAbsolute, String.toList_append, shape]
  rfl

section

variable {disk grown : Disk} {settings : ResolverSettings} {entry : Path} {files : List RequiredFile}

theorem required_listed (spelled : Path) (present : disk.canonicalize spelled = .ok entry)
    (resolved : resolve disk settings spelled = .ok files) (file dependency : Path)
    (member : file ∈ entry :: paths files) (edge : Edge disk settings entry file dependency) :
    dependency ∈ entry :: paths files := by
  obtain ⟨_, _, reached⟩ := resolved_reaches disk settings spelled entry files present resolved
  refine List.mem_cons_of_mem _ ((reached dependency).mpr ?_)
  rcases List.mem_cons.mp member with rfl | listed
  · exact .single edge
  · exact ((reached file).mp listed).tail edge

end

def Holds (place : Place) (file : Path) : Prop :=
  place <+: placeOf file.components ∧ place ≠ placeOf file.components

instance (place : Place) (file : Path) : Decidable (Holds place file) :=
  inferInstanceAs (Decidable (_ ∧ _))

theorem holds_iff (base place relative : Place) (file : Path) (lies : Lies base file relative) :
    Holds (base ++ place) file ↔ place <+: relative ∧ place ≠ relative := by
  rw [Holds, lies.spelled, place_of_path _ lies.named, List.prefix_append_right_inj, ne_eq, List.append_cancel_left_eq]

section

variable {disk grown : Disk} {root : Path} {base : Place} {files : List Path}

theorem laid_hit_iff (laid : Laid grown root base files) (lying : ∀ file ∈ files, ∃ relative, Lies base file relative)
    (here : Place) (segments : List String) (confined : Confined base (base ++ here) segments) :
    Hit grown (grown.landing root ++ here) segments ↔
      (∀ place ∈ passed (base ++ here) segments, ∃ file ∈ files, Holds place file) ∧
        ∃ file ∈ files, Lies base file (arrival here segments) := by
  obtain ⟨arrives, passes⟩ := confined_rebased base (grown.landing root) here segments confined
  rw [Hit, arrives, laid.file, Passable, passes, (confined_rebased base base here segments confined).2]
  refine and_congr_left fun _ => ?_
  simp only [List.forall_mem_map, laid.directory]
  refine forall₂_congr fun place _ => ⟨?_, ?_⟩
  · rintro ⟨file, member, relative, lies, above⟩
    exact ⟨file, member, (holds_iff base place relative file lies).mpr above⟩
  · rintro ⟨file, member, holds⟩
    obtain ⟨relative, lies⟩ := lying file member
    exact ⟨file, member, relative, lies, (holds_iff base place relative file lies).mp holds⟩

-- Nothing can be found in the workspace that was not found in the original tree.
theorem laid_hit_original (laid : Laid grown root base files)
    (lying : ∀ file ∈ files, ∃ relative, Lies base file relative) (placed : ∀ file ∈ files, Placed disk file)
    (here : Place) (segments : List String) (confined : Confined base (base ++ here) segments)
    (hit : Hit grown (grown.landing root ++ here) segments) :
    Hit disk (base ++ here) segments := by
  obtain ⟨arrives, passes⟩ := confined_rebased base base here segments confined
  obtain ⟨held, file, member, lies⟩ := (laid_hit_iff laid lying here segments confined).mp hit
  have stands : ∀ file ∈ files, ∀ relative, Lies base file relative → disk.kindAt (base ++ relative) = some .file := by
    intro file member relative lies
    obtain ⟨place, spelled, named, isFile⟩ := placed file member
    rwa [path_of_injective _ _ named lies.named (spelled.symm.trans lies.spelled)] at isFile
  refine ⟨?_, arrives ▸ stands file member _ lies⟩
  intro place member
  obtain ⟨file, listed, holds⟩ := held place member
  rw [passes] at member
  obtain ⟨inner, _, rfl⟩ := List.mem_map.mp member
  obtain ⟨relative, lies⟩ := lying file listed
  obtain ⟨⟨below, rfl⟩, proper⟩ := (holds_iff base inner relative file lies).mp holds
  have leaf := stands file listed _ lies
  rw [← List.append_assoc] at leaf
  refine directory_above disk _ below ?_ (by rw [leaf]; exact nofun)
  rintro rfl
  exact proper (List.append_nil inner).symm

theorem lying_directory (linkFree : disk.LinkFree) (file : Path) (here : Place) (last : String)
    (lies : Lies base file (here ++ [last])) (placed : Placed disk file) :
    file.parent? = some (pathOf (base ++ here)) ∧ disk.locate (pathOf (base ++ here)) = .ok (base ++ here) := by
  obtain ⟨spelled, _, named⟩ := lies
  rw [← List.append_assoc] at spelled named
  obtain ⟨place, spelledPlace, placeNamed, isFile⟩ := placed
  rw [path_of_injective _ _ placeNamed named (spelledPlace.symm.trans spelled)] at isFile
  have above := directory_above disk (base ++ here) [last] (by simp) (by rw [isFile]; exact nofun)
  refine ⟨by rw [spelled, path_of_parent (base ++ here) last named], ?_⟩
  refine locate_path_of disk linkFree _ (fun name inside => named name (List.mem_append_left _ inside)) ?_
  rw [above]
  exact nofun

theorem copy_directory (laid : Laid grown root base files) (file : Path) (here : Place) (last : String)
    (lies : Lies base file (here ++ [last])) (member : file ∈ files) :
    ∃ copy directory, copyPath root (baseComponents base) file = some copy ∧ copy.parent? = some directory ∧
      grown.locate directory = .ok (grown.landing root ++ here) := by
  obtain ⟨copy, copyFound, shape⟩ := copy_path_spelled laid.anchored lies
  have named : ∀ name ∈ here ++ [last], IsName name := fun name inside =>
    lies.named name (List.mem_append_right _ inside)
  obtain ⟨directory, up, directoryShape⟩ := anchored_parent laid.anchored copy here last shape named
  refine ⟨copy, directory, copyFound, up, ?_⟩
  refine anchored_locate laid.linkFree laid.anchored laid.located directory here directoryShape
    (fun name inside => named name (List.mem_append_left _ inside)) ?_
  rw [(laid.directory here).mpr ⟨file, member, _, lies, List.prefix_append _ _, by simp⟩]
  exact nofun

theorem laid_probe_iff (linkFree : disk.LinkFree) (laid : Laid grown root base files)
    (lying : ∀ file ∈ files, ∃ relative, Lies base file relative) (placed : ∀ file ∈ files, Placed disk file)
    (extensions : List String) (text : String) (relative : ∀ extension, isAbsolute ⟨text ++ extension⟩ = false)
    (directory copyDirectory : Path) (here : Place) (named : ∀ name ∈ base ++ here, IsName name)
    (located : disk.locate directory = .ok (base ++ here))
    (copyLocated : grown.locate copyDirectory = .ok (grown.landing root ++ here)) (found : RequiredFile)
    (probed : probe disk extensions directory text = some found) (listed : found.path ∈ files)
    (confined : ∀ extension ∈ extensions, Confined base (base ++ here) (segments ⟨text ++ extension⟩)) :
    ∃ copied target, copyPath root (baseComponents base) found.path = some copied ∧
      grown.canonicalize copied = .ok target ∧
      (probe grown extensions copyDirectory text = some ⟨target, found.extension⟩ ↔
        ∀ place ∈ passed (base ++ here) (segments ⟨text ++ found.extension⟩), ∃ other ∈ files, Holds place other) := by
  obtain ⟨before, after, cut, missed, hit, path⟩ :=
    (probe_iff disk linkFree extensions directory (base ++ here) located text found relative).mp probed
  have own := confined found.extension (by rw [cut]; simp)
  obtain ⟨arrives, _⟩ := confined_rebased base base here _ own
  obtain ⟨copyArrives, _⟩ := confined_rebased base (grown.landing root) here _ own
  obtain ⟨place, lies⟩ := lying found.path listed
  have arrivedNamed := arrival_keeps_names (base ++ here) (segments ⟨text ++ found.extension⟩) named
    (segments_unslashed _)
  have same : arrival here (segments ⟨text ++ found.extension⟩) = place := by
    rw [arrives] at path arrivedNamed
    exact List.append_cancel_left (path_of_injective _ _ arrivedNamed lies.named (path.symm.trans lies.spelled))
  obtain ⟨copied, copyFound, shape⟩ := copy_path_spelled laid.anchored lies
  have stands := (laid.file place).mpr ⟨found.path, listed, lies⟩
  have copyStands := anchored_locate laid.linkFree laid.anchored laid.located copied place shape
    (fun name inside => lies.named name (List.mem_append_right _ inside)) (by rw [stands]; exact Option.some_ne_none _)
  refine ⟨copied, pathOf (grown.landing root ++ place), copyFound, by rw [canonicalize, copyStands]; rfl, ?_⟩
  rw [probe_iff grown laid.linkFree extensions copyDirectory _ copyLocated text _ relative]
  have hitIff := laid_hit_iff laid lying here _ own
  rw [and_iff_left ⟨found.path, listed, same ▸ lies⟩] at hitIff
  rw [← hitIff]
  constructor
  · rintro ⟨_, _, _, _, copyHit, _⟩
    exact copyHit
  · intro copyHit
    refine ⟨before, after, cut, fun extension earlier copyEarlier => missed extension earlier ?_, copyHit, ?_⟩
    · exact laid_hit_original laid lying placed here _ (confined extension (by rw [cut]; simp [earlier])) copyEarlier
    · rw [copyArrives, same]

end

/-- A relative require that stays below the common directory finds, from the copy of its script, the copy of what it
found in the original tree, with the same extension, exactly if every directory that its spelling passes holds a
staged file. -/
theorem staged_require_found_iff (naming : Naming) (lawful : naming.Lawful) (disk grown : Disk) (settings : ResolverSettings)
    (stagingRoot spelled entry file : Path) (files : List RequiredFile) (workspace : Workspace)
    (program : Program) (text : String) (found : RequiredFile) (linkFree : disk.LinkFree)
    (named : ∀ name ∈ disk.workingDirectory, IsName name) (present : disk.canonicalize spelled = .ok entry)
    (resolved : resolve disk settings spelled = .ok files)
    (staged : stage naming disk stagingRoot spelled (paths files) = (grown, .ok workspace))
    (member : file ∈ entry :: paths files) (follows : followed? disk entry file = some program)
    (required : text ∈ requiredTexts settings.requireFunction program)
    (dotted : ['.', '/'] <+: text.toList ∨ ['.', '.', '/'] <+: text.toList)
    (probed : probe disk settings.candidateExtensions (file.parent?.getD ⟨"."⟩) text = some found)
    (confined : ∀ extension ∈ settings.candidateExtensions,
      Confined (placeOf (baseOf (entry.parent?.getD ⟨"."⟩) (paths files)))
        (placeOf (file.parent?.getD ⟨"."⟩).components) (segments ⟨text ++ extension⟩)) :
    copyPath workspace.root (baseOf (entry.parent?.getD ⟨"."⟩) (paths files)) entry = some workspace.entry ∧
    ∃ copy copied target,
      copyPath workspace.root (baseOf (entry.parent?.getD ⟨"."⟩) (paths files)) file = some copy ∧
      copyPath workspace.root (baseOf (entry.parent?.getD ⟨"."⟩) (paths files)) found.path = some copied ∧
      grown.canonicalize copied = .ok target ∧
      (probe grown settings.candidateExtensions (copy.parent?.getD ⟨"."⟩) text = some ⟨target, found.extension⟩ ↔
        ∀ place ∈ passed (placeOf (file.parent?.getD ⟨"."⟩).components) (segments ⟨text ++ found.extension⟩),
          ∃ other ∈ entry :: paths files, Holds place other) := by
  have placed := resolved_placed named spelled present resolved
  have listed := required_listed spelled present resolved file found.path member
    ⟨program, follows, text, required, found, probed, rfl⟩
  obtain ⟨directory, base, up, common, lying, laid, entryCopy⟩ :=
    stage_lays lawful disk grown linkFree stagingRoot spelled entry (paths files) workspace present placed staged
  rw [up, Option.getD_some, common, place_of_base] at confined
  rw [up, Option.getD_some, common]
  obtain ⟨relative, lies⟩ := lying file member
  obtain ⟨here, last, rfl⟩ : ∃ here last, relative = here ++ [last] :=
    ⟨_, _, (List.dropLast_append_getLast lies.proper).symm⟩
  have hereNamed : ∀ name ∈ base ++ here, IsName name := fun name inside =>
    lies.named name (by rw [← List.append_assoc]; exact List.mem_append_left _ inside)
  obtain ⟨fileUp, located⟩ := lying_directory linkFree file here last lies (placed file member)
  obtain ⟨copy, copyDirectory, copyFound, copyUp, copyLocated⟩ := copy_directory laid file here last lies member
  rw [fileUp, Option.getD_some] at probed confined ⊢
  rw [place_of_path _ hereNamed] at confined ⊢
  obtain ⟨copied, target, copiedFound, canonical, finds⟩ := laid_probe_iff linkFree laid lying placed
    settings.candidateExtensions text (fun extension => dotted_relative text extension dotted) (pathOf (base ++ here))
    copyDirectory here hereNamed located copyLocated found probed listed confined
  refine ⟨entryCopy, copy, copied, target, copyFound, copiedFound, canonical, ?_⟩
  rw [copyUp, Option.getD_some]
  exact finds

def suiteEntry : Path := ⟨"/suite/login.js"⟩

def climbingText : String := "var d = require('../dep.js');"

def climbingDisk : Disk where
  entries := [("suite", .directory [("login.js", .file climbingText.toUTF8.toList 0o644)]), ("dep.js", .file [] 0o644)]
  workingDirectory := []

theorem climbing_requires_one :
    RequiresOne climbingDisk suiteEntry suiteEntry climbingText (requireProgram "../dep.js") ⟨⟨"/dep.js"⟩, ""⟩ :=
  ⟨by decide +kernel, by decide +kernel, require_parses (by decide +kernel) rfl, by decide +kernel, by decide,
    by decide +kernel⟩

theorem climbing_require_staged :
    climbingDisk.LinkFree ∧ resolve climbingDisk {} suiteEntry = .ok [⟨⟨"/dep.js"⟩, ""⟩] ∧
      (stage numbered climbingDisk ⟨"/staging"⟩ suiteEntry [⟨"/dep.js"⟩]).2 =
        .ok ⟨⟨"/staging/casper-000000"⟩, ⟨"/staging/casper-000000/suite/login.js"⟩⟩ ∧
      ∃ copy copied target,
        copyPath ⟨"/staging/casper-000000"⟩ (baseOf ⟨"/suite"⟩ [⟨"/dep.js"⟩]) suiteEntry = some copy ∧
        copyPath ⟨"/staging/casper-000000"⟩ (baseOf ⟨"/suite"⟩ [⟨"/dep.js"⟩]) ⟨"/dep.js"⟩ = some copied ∧
        (stage numbered climbingDisk ⟨"/staging"⟩ suiteEntry [⟨"/dep.js"⟩]).1.canonicalize copied = .ok target ∧
        probe (stage numbered climbingDisk ⟨"/staging"⟩ suiteEntry [⟨"/dep.js"⟩]).1 ["", ".js", ".ts", ".coffee", ".json"]
          (copy.parent?.getD ⟨"."⟩) "../dep.js" = some ⟨target, ""⟩ := by
  have linkFree : climbingDisk.LinkFree := link_free_of_places _ (by decide +kernel)
  have workspace : (stage numbered climbingDisk ⟨"/staging"⟩ suiteEntry [⟨"/dep.js"⟩]).2 =
      .ok ⟨⟨"/staging/casper-000000"⟩, ⟨"/staging/casper-000000/suite/login.js"⟩⟩ := by decide +kernel
  have staged := (Prod.eta (stage numbered climbingDisk ⟨"/staging"⟩ suiteEntry [⟨"/dep.js"⟩])).symm.trans
    (congrArg (Prod.mk _) workspace)
  obtain ⟨_, copy, copied, target, copyFound, copiedFound, canonical, finds⟩ :=
    staged_require_found_iff numbered numbered_lawful climbingDisk _ {} ⟨"/staging"⟩ suiteEntry suiteEntry suiteEntry
      [⟨⟨"/dep.js"⟩, ""⟩] _ (requireProgram "../dep.js") "../dep.js" ⟨⟨"/dep.js"⟩, ""⟩ linkFree (by decide)
      climbing_requires_one.present
      climbing_requires_one.resolves staged (List.mem_cons_self ..) climbing_requires_one.followed (by decide +kernel)
      (by decide) (by decide +kernel) (by decide +kernel)
  exact ⟨linkFree, climbing_requires_one.resolves, workspace, copy, copied, target, copyFound, copiedFound, canonical,
    finds.mpr (by decide +kernel)⟩

def detourText : String := "var d = require('./lib/../dep.js');"

def detourDisk : Disk where
  entries := [("suite", .directory [("login.js", .file detourText.toUTF8.toList 0o644), ("lib", .directory []),
    ("dep.js", .file [] 0o644)])]
  workingDirectory := []

theorem detour_requires_one :
    RequiresOne detourDisk suiteEntry suiteEntry detourText (requireProgram "./lib/../dep.js") ⟨⟨"/suite/dep.js"⟩, ""⟩ :=
  ⟨by decide +kernel, by decide +kernel, require_parses (by decide +kernel) rfl, by decide +kernel, by decide,
    by decide +kernel⟩

/-- The directory `lib` holds no staged file, so the copy has no such directory and the require of the copy is lost. -/
theorem detour_through_unstaged_directory :
    detourDisk.LinkFree ∧ detourDisk.canonicalize suiteEntry = .ok suiteEntry ∧
      resolve detourDisk {} suiteEntry = .ok [⟨⟨"/suite/dep.js"⟩, ""⟩] ∧
      followed? detourDisk suiteEntry suiteEntry = some (requireProgram "./lib/../dep.js") ∧
      requiredTexts "require" (requireProgram "./lib/../dep.js") = ["./lib/../dep.js"] ∧
      probe detourDisk ["", ".js", ".ts", ".coffee", ".json"] ⟨"/suite"⟩ "./lib/../dep.js" =
        some ⟨⟨"/suite/dep.js"⟩, ""⟩ ∧
      (stage numbered detourDisk ⟨"/staging"⟩ suiteEntry [⟨"/suite/dep.js"⟩]).2 =
        .ok ⟨⟨"/staging/casper-000000"⟩, ⟨"/staging/casper-000000/login.js"⟩⟩ ∧
      (stage numbered detourDisk ⟨"/staging"⟩ suiteEntry [⟨"/suite/dep.js"⟩]).1.isFile ⟨"/staging/casper-000000/dep.js"⟩ = true ∧
      probe (stage numbered detourDisk ⟨"/staging"⟩ suiteEntry [⟨"/suite/dep.js"⟩]).1 ["", ".js", ".ts", ".coffee", ".json"]
        ⟨"/staging/casper-000000"⟩ "./lib/../dep.js" = none := by
  exact ⟨link_free_of_places _ (by decide +kernel), detour_requires_one.present, detour_requires_one.resolves,
    detour_requires_one.followed, by decide +kernel, by decide +kernel, by decide +kernel, by decide +kernel,
    by decide +kernel⟩

end ScriptSuite.Staging
