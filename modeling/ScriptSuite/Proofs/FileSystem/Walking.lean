import ScriptSuite.Proofs.FileSystem.Kinds
import ScriptSuite.Proofs.Path

set_option autoImplicit false

namespace ScriptSuite.FileSystem

open ScriptSuite.Path

namespace Place

def after (here : Place) (segment : String) : Place :=
  if isSilent segment then here else if segment = ".." then here.dropLast else here ++ [segment]

def arrival (here : Place) (segments : List String) : Place :=
  segments.foldl after here

def passed (here : Place) : List String → List Place
  | [] => []
  | segment :: rest => here :: passed (after here segment) rest

theorem arrival_append (here : Place) (left right : List String) :
    arrival here (left ++ right) = arrival (arrival here left) right :=
  List.foldl_append

theorem passed_append (here : Place) (left right : List String) :
    passed here (left ++ right) = passed here left ++ passed (arrival here left) right := by
  induction left generalizing here with
  | nil => rfl
  | cons segment rest step =>
      rw [List.cons_append, passed, step, passed, List.cons_append]
      rfl

theorem after_silent (here : Place) (segment : String) (silent : isSilent segment = true) :
    after here segment = here :=
  if_pos silent

theorem after_parent (here : Place) : after here ".." = here.dropLast := by
  rw [after, if_neg (by decide), if_pos rfl]

theorem after_name (here : Place) (name : String) (audible : isSilent name = false) (notParent : name ≠ "..") :
    after here name = here ++ [name] := by
  rw [after, if_neg (by simp [audible]), if_neg notParent]

theorem arrival_silent (here : Place) (segments : List String) (silent : ∀ segment ∈ segments, segment = "") :
    arrival here segments = here := by
  induction segments with
  | nil => rfl
  | cons segment rest step =>
      have first := silent segment (List.mem_cons_self ..)
      subst first
      exact step fun other inside => silent other (List.mem_cons_of_mem _ inside)

theorem arrival_named (here names : Place) (named : ∀ name ∈ names, IsName name) :
    arrival here names = here ++ names := by
  induction names generalizing here with
  | nil => exact (List.append_nil here).symm
  | cons name rest step =>
      have first := named name (List.mem_cons_self ..)
      change arrival (after here name) rest = _
      rw [after_name here name first.audible first.notParent,
        step _ fun other inside => named other (List.mem_cons_of_mem _ inside), List.append_assoc]
      rfl

theorem passed_named (here names : Place) (named : ∀ name ∈ names, IsName name) (place : Place) :
    place ∈ passed here names ↔ ∃ front rest, names = front ++ rest ∧ rest ≠ [] ∧ place = here ++ front := by
  induction names generalizing here with
  | nil => simp [passed]
  | cons name rest step =>
      have first := named name (List.mem_cons_self ..)
      rw [passed, List.mem_cons, after_name here name first.audible first.notParent,
        step _ fun other inside => named other (List.mem_cons_of_mem _ inside)]
      constructor
      · rintro (rfl | ⟨front, back, rfl, nonempty, rfl⟩)
        · exact ⟨[], name :: rest, rfl, List.cons_ne_nil name rest, (List.append_nil _).symm⟩
        · exact ⟨name :: front, back, rfl, nonempty, by simp⟩
      · rintro ⟨front, back, cut, nonempty, rfl⟩
        cases front with
        | nil => exact .inl (List.append_nil here)
        | cons other front =>
            obtain ⟨rfl, rfl⟩ := List.cons.inj cut
            exact .inr ⟨front, back, rfl, nonempty, by simp⟩

theorem after_keeps_names (here : Place) (segment : String) (named : ∀ name ∈ here, IsName name)
    (unslashed : '/' ∉ segment.toList) : ∀ name ∈ after here segment, IsName name := by
  unfold after
  split
  · exact named
  · rename_i audible
    split
    · exact fun name inside => named name (List.dropLast_subset here inside)
    · rename_i notParent
      intro name inside
      rcases List.mem_append.mp inside with old | new
      · exact named name old
      · rw [List.mem_singleton.mp new]
        exact ⟨unslashed, by simpa using audible, notParent⟩

theorem arrival_keeps_names (here : Place) (segments : List String) (named : ∀ name ∈ here, IsName name)
    (unslashed : ∀ segment ∈ segments, '/' ∉ segment.toList) : ∀ name ∈ arrival here segments, IsName name := by
  induction segments generalizing here with
  | nil => exact named
  | cons segment rest step =>
      exact step _ (after_keeps_names here segment named (unslashed segment (List.mem_cons_self ..)))
        fun other inside => unslashed other (List.mem_cons_of_mem _ inside)

end Place

namespace Disk

open Place

section

variable {disk : Disk}

theorem parent_stands (here : Place) (directory : disk.kindAt here = some .directory) :
    disk.kindAt here.dropLast = some .directory := by
  cases here using List.reverseRecOn with
  | nil => exact kind_at_top disk
  | append_singleton front last =>
      rw [List.dropLast_concat]
      exact directory_above disk front [last] (by simp) (by rw [directory]; simp)

theorem after_absent (here : Place) (segment : String) (directory : disk.kindAt here = some .directory)
    (absent : disk.kindAt (after here segment) = none) : after here segment = here ++ [segment] := by
  unfold after at absent ⊢
  split
  · rename_i silent
    rw [if_pos silent, directory] at absent
    exact absurd absent (by simp)
  · rename_i audible
    rw [if_neg audible] at absent
    split
    · rename_i parent
      rw [if_pos parent, parent_stands here directory] at absent
      exact absurd absent (by simp)
    · rfl

theorem walk_cons (followLast : Bool) (here : Place) (segment : String) (rest : List String) (entries : Entries)
    (held : disk.at? here = some (.directory entries)) (linkFree : disk.LinkFree) :
    disk.walk followLast here (segment :: rest) =
      if disk.kindAt (after here segment) = none then
        if rest.all (· == "") then .ok (.missing here segment (!rest.isEmpty)) else .error .notFound
      else disk.walk followLast (after here segment) rest := by
  have directory : disk.kindAt here = some .directory := (kind_at_directory disk here).mpr ⟨entries, held⟩
  rw [walk, held]
  dsimp only
  by_cases silent : isSilent segment = true
  · rw [if_pos silent, after_silent here segment silent, directory, if_neg (by simp)]
  · rw [if_neg silent]
    by_cases parent : segment = ".."
    · rw [if_pos parent, parent, after_parent, parent_stands here directory, if_neg (by simp)]
    · rw [if_neg parent, after_name here segment (by simpa using silent) parent]
      have entry := at_entry disk here entries segment held
      have kind : disk.kindAt (here ++ [segment]) = (entries.lookup segment).map Node.kind := by rw [kindAt, entry]
      cases found : entries.lookup segment with
      | none =>
          rw [kind, found]
          rfl
      | some node =>
          rw [found] at kind
          have plain := linkFree (here ++ [segment])
          rw [kind] at plain ⊢
          cases node with
          | file content mode => rfl
          | directory inner => rfl
          | link target => exact absurd rfl plain

theorem walk_off (followLast : Bool) (here : Place) (segment : String) (rest : List String)
    (off : disk.kindAt here ≠ some .directory) :
    ∃ error, disk.walk followLast here (segment :: rest) = .error error := by
  rw [walk]
  unfold kindAt at off
  cases held : disk.at? here with
  | none => exact ⟨_, rfl⟩
  | some node =>
      rw [held] at off
      cases node with
      | file content mode => exact ⟨_, rfl⟩
      | link target => exact ⟨_, rfl⟩
      | directory entries => exact absurd rfl off

theorem walk_arrives_iff (linkFree : disk.LinkFree) (followLast : Bool) (here there : Place) (segments : List String) :
    disk.walk followLast here segments = .ok (.arrived there) ↔
      there = arrival here segments ∧ (∀ place ∈ passed here segments, disk.kindAt place = some .directory) ∧
        (segments = [] ∨ disk.kindAt there ≠ none) := by
  induction segments generalizing here with
  | nil => simp [walk, arrival, passed, eq_comm]
  | cons segment rest step =>
      by_cases directory : disk.kindAt here = some .directory
      · obtain ⟨entries, held⟩ := (kind_at_directory disk here).mp directory
        rw [walk_cons followLast here segment rest entries held linkFree]
        have goal : arrival here (segment :: rest) = arrival (after here segment) rest := rfl
        rw [goal, passed, List.forall_mem_cons]
        by_cases absent : disk.kindAt (after here segment) = none
        · rw [if_pos absent]
          constructor
          · split <;> exact nofun
          · rintro ⟨rfl, ⟨_, others⟩, ends⟩
            cases rest with
            | nil => exact absurd absent (by simpa [arrival] using ends)
            | cons next more => exact absurd ((others _ (List.mem_cons_self ..)).symm.trans absent) (by simp)
        · rw [if_neg absent, step]
          constructor
          · rintro ⟨rfl, others, ends⟩
            refine ⟨rfl, ⟨directory, others⟩, .inr ?_⟩
            rcases ends with rfl | present
            · exact absent
            · exact present
          · rintro ⟨rfl, ⟨_, others⟩, ends⟩
            exact ⟨rfl, others, .inr (by simpa using ends)⟩
      · obtain ⟨error, fails⟩ := walk_off followLast here segment rest directory
        rw [fails]
        constructor
        · exact nofun
        · rintro ⟨_, directories, _⟩
          exact absurd (directories here (List.mem_cons_self ..)) directory

theorem walk_missing (linkFree : disk.LinkFree) (followLast : Bool) (here directory : Place) (segments : List String)
    (name : String) (slashed : Bool)
    (missing : disk.walk followLast here segments = .ok (.missing directory name slashed)) :
    directory ++ [name] = arrival here segments ∧ disk.kindAt directory = some .directory ∧
      disk.kindAt (directory ++ [name]) = none := by
  induction segments generalizing here with
  | nil => cases missing
  | cons segment rest step =>
      by_cases stands : disk.kindAt here = some .directory
      · obtain ⟨entries, held⟩ := (kind_at_directory disk here).mp stands
        rw [walk_cons followLast here segment rest entries held linkFree] at missing
        by_cases absent : disk.kindAt (after here segment) = none
        · rw [if_pos absent] at missing
          split at missing
          · rename_i slashes
            have named := after_absent here segment stands absent
            have ends : arrival here (segment :: rest) = after here segment :=
              arrival_silent _ rest (by simpa using slashes)
            cases missing
            rw [ends, ← named]
            exact ⟨rfl, stands, absent⟩
          · cases missing
        · rw [if_neg absent] at missing
          exact step _ missing
      · obtain ⟨error, fails⟩ := walk_off followLast here segment rest stands
        rw [fails] at missing
        cases missing

theorem walk_not_redirected (linkFree : disk.LinkFree) (followLast : Bool) (here : Place) (segments : List String)
    (directory : Place) (target : String) (others : List String) :
    disk.walk followLast here segments ≠ .ok (.redirected directory target others) := by
  induction segments generalizing here with
  | nil => exact nofun
  | cons segment rest step =>
      by_cases stands : disk.kindAt here = some .directory
      · obtain ⟨entries, held⟩ := (kind_at_directory disk here).mp stands
        rw [walk_cons followLast here segment rest entries held linkFree]
        split
        · split <;> exact nofun
        · exact step _
      · obtain ⟨error, fails⟩ := walk_off followLast here segment rest stands
        rw [fails]
        exact nofun

theorem reach_walks (linkFree : disk.LinkFree) (followLast : Bool) (path : Path) (nonempty : path.text ≠ "") :
    disk.reach followLast path = disk.walk followLast (disk.origin path) path.segments := by
  rw [reach, if_neg nonempty, follow]
  split
  · rename_i directory target rest redirected
    exact absurd redirected (walk_not_redirected linkFree followLast _ _ directory target rest)
  · rfl

def landing (disk : Disk) (path : Path) : Place :=
  arrival (disk.origin path) path.segments

def Passable (disk : Disk) (here : Place) (segments : List String) : Prop :=
  ∀ place ∈ passed here segments, disk.kindAt place = some .directory

instance (disk : Disk) (here : Place) (segments : List String) : Decidable (disk.Passable here segments) :=
  inferInstanceAs (Decidable (∀ place ∈ passed here segments, disk.kindAt place = some .directory))

theorem locate_iff (linkFree : disk.LinkFree) (path : Path) (place : Place) :
    disk.locate path = .ok place ↔
      path.text ≠ "" ∧ place = disk.landing path ∧ disk.Passable (disk.origin path) path.segments ∧
        disk.kindAt place ≠ none := by
  by_cases empty : path.text = ""
  · simp [locate, reach, empty]
  · have arrives := walk_arrives_iff linkFree true (disk.origin path) place path.segments
    rw [or_iff_right (segments_ne_nil path)] at arrives
    rw [locate, reach_walks linkFree true path empty, and_iff_right empty, landing, Passable, ← arrives]
    cases disk.walk true (disk.origin path) path.segments with
    | error fault => exact ⟨nofun, nofun⟩
    | ok walked => cases walked <;> simp

theorem is_file_iff (linkFree : disk.LinkFree) (path : Path) :
    disk.isFile path = true ↔
      path.text ≠ "" ∧ disk.Passable (disk.origin path) path.segments ∧
        disk.kindAt (disk.landing path) = some .file := by
  constructor
  · intro file
    obtain ⟨place, content, mode, located, present⟩ := is_file_located disk path file
    obtain ⟨nonempty, rfl, passable, _⟩ := (locate_iff linkFree path place).mp located
    exact ⟨nonempty, passable, (kind_at_file disk _).mpr ⟨content, mode, present⟩⟩
  · rintro ⟨nonempty, passable, file⟩
    obtain ⟨content, mode, present⟩ := (kind_at_file disk _).mp file
    have located := (locate_iff linkFree path _).mpr ⟨nonempty, rfl, passable, by rw [file]; simp⟩
    simp [isFile, node, located, present, bind, Except.bind]

theorem canonicalize_iff (linkFree : disk.LinkFree) (path canonical : Path) :
    disk.canonicalize path = .ok canonical ↔
      canonical = pathOf (disk.landing path) ∧ path.text ≠ "" ∧ disk.Passable (disk.origin path) path.segments ∧
        disk.kindAt (disk.landing path) ≠ none := by
  constructor
  · intro found
    cases located : disk.locate path with
    | error fault =>
        rw [canonicalize, located] at found
        cases found
    | ok place =>
        rw [canonicalize, located] at found
        obtain ⟨nonempty, rfl, rest⟩ := (locate_iff linkFree path place).mp located
        exact ⟨(Except.ok.inj found).symm, nonempty, rest⟩
  · rintro ⟨rfl, nonempty, rest⟩
    rw [canonicalize, (locate_iff linkFree path _).mpr ⟨nonempty, rfl, rest⟩]
    rfl

theorem passable_append (here : Place) (left right : List String) :
    disk.Passable here (left ++ right) ↔ disk.Passable here left ∧ disk.Passable (arrival here left) right := by
  rw [Passable, passed_append, List.forall_mem_append]
  rfl

theorem passable_names (here names : Place) (named : ∀ name ∈ names, IsName name)
    (present : disk.kindAt (here ++ names) ≠ none) : disk.Passable here names := by
  intro place member
  obtain ⟨front, rest, rfl, nonempty, rfl⟩ := (passed_named here names named place).mp member
  refine directory_above disk (here ++ front) rest nonempty ?_
  rwa [List.append_assoc]

theorem absolute_join (left right : Path) (relative : right.isAbsolute = false) (nonempty : left.text ≠ "") :
    (left.join right).isAbsolute = left.isAbsolute := by
  have chars : left.text.toList ≠ [] := by simpa using nonempty
  rw [join, relative, if_neg Bool.false_ne_true]
  split <;>
  · rw [isAbsolute, isAbsolute, String.toList_append]
    try rw [String.toList_append]
    cases shape : left.text.toList with
    | nil => exact absurd shape chars
    | cons first rest => rfl

theorem join_nonempty (left right : Path) (relative : right.isAbsolute = false) (nonempty : left.text ≠ "") :
    (left.join right).text ≠ "" := by
  rw [join, relative, if_neg Bool.false_ne_true]
  split <;> simp [nonempty]

theorem origin_join (left right : Path) (relative : right.isAbsolute = false) (nonempty : left.text ≠ "") :
    disk.origin (left.join right) = disk.origin left := by
  rw [origin, origin, absolute_join left right relative nonempty]

theorem join_walks (linkFree : disk.LinkFree) (left right : Path) (here : Place) (relative : right.isAbsolute = false)
    (located : disk.locate left = .ok here) :
    (left.join right).text ≠ "" ∧ disk.landing (left.join right) = arrival here right.segments ∧
      (disk.Passable (disk.origin (left.join right)) (left.join right).segments ↔
        disk.Passable here right.segments) := by
  obtain ⟨nonempty, rfl, passable, present⟩ := (locate_iff linkFree left here).mp located
  have origin : disk.origin (left.join right) = disk.origin left := origin_join left right relative nonempty
  obtain ⟨front, joined, opened, ends⟩ : ∃ front, (left.join right).segments = front ++ right.segments ∧
      disk.Passable (disk.origin left) front ∧ arrival (disk.origin left) front = disk.landing left := by
    refine ⟨_, join_segments left right relative nonempty, ?_⟩
    by_cases slash : left.text.toList.getLast? = some '/'
    · have cut := slash_end_segments left slash
      rw [if_pos slash]
      rw [cut, passable_append] at passable
      refine ⟨passable.1, ?_⟩
      rw [landing]
      conv => rhs; rw [cut]
      rw [arrival_append, arrival_silent _ [""] (by simp)]
    · rw [if_neg slash]
      exact ⟨passable, rfl⟩
  refine ⟨join_nonempty left right relative nonempty, ?_, ?_⟩
  · rw [landing, origin, joined, arrival_append, ends]
  · rw [origin, joined, passable_append, ends, and_iff_right opened]

end

theorem path_of_segments_here (place : Place) (named : ∀ name ∈ place, IsName name) :
    (pathOf place).segments = "" :: (if place = [] then [""] else place) := by
  by_cases top : place = []
  · subst top
    rfl
  · rw [if_neg top]
    have spelled : pathOf place = ⟨String.intercalate "/" ("" :: place)⟩ := by
      cases place with
      | nil => exact absurd rfl top
      | cons name rest => rw [pathOf, String.intercalate_cons_cons]; simp
    rw [spelled]
    refine segments_intercalate _ (by simp) fun segment inside => ?_
    rcases List.mem_cons.mp inside with rfl | inside
    · decide
    · exact (named segment inside).unslashed

theorem path_of_absolute (place : Place) : (pathOf place).isAbsolute = true := by
  rw [pathOf, isAbsolute, String.toList_append]
  rfl

theorem landing_path_of (disk : Disk) (place : Place) (named : ∀ name ∈ place, IsName name) :
    disk.landing (pathOf place) = place := by
  rw [landing, origin, path_of_absolute, if_pos rfl, path_of_segments_here place named]
  by_cases top : place = []
  · rw [top]
    rfl
  · rw [if_neg top]
    exact arrival_named [] place named

theorem locate_path_of (disk : Disk) (linkFree : disk.LinkFree) (place : Place) (named : ∀ name ∈ place, IsName name)
    (present : disk.kindAt place ≠ none) : disk.locate (pathOf place) = .ok place := by
  refine (locate_iff linkFree _ place).mpr ⟨text_nonempty _ (path_of_absolute place),
    (landing_path_of disk place named).symm, ?_, present⟩
  rw [origin, path_of_absolute, if_pos rfl, path_of_segments_here place named]
  have start : disk.Passable [] [""] := by simp [Passable, passed, kind_at_top]
  rw [← List.singleton_append, passable_append]
  refine ⟨start, ?_⟩
  by_cases top : place = []
  · rw [if_pos top]
    exact start
  · rw [if_neg top]
    exact passable_names [] place named present

theorem path_of_injective (left right : Place) (leftNamed : ∀ name ∈ left, IsName name)
    (rightNamed : ∀ name ∈ right, IsName name) (same : pathOf left = pathOf right) : left = right := by
  rw [← landing_path_of default left leftNamed, same, landing_path_of default right rightNamed]

theorem path_of_parent (place : Place) (name : String) (named : ∀ other ∈ place ++ [name], IsName other) :
    (pathOf (place ++ [name])).parent? = some (pathOf place) := by
  have last := named name (by simp)
  have segments := path_of_segments_here (place ++ [name]) named
  rw [if_neg (by simp)] at segments
  cases place using List.reverseRecOn with
  | nil =>
      rw [parent?, segments]
      have trimmed := trim_named_end [] name last.audible
      rw [List.nil_append] at trimmed ⊢
      simp only [trimmed]
      rfl
  | append_singleton front before =>
      have beforeNamed := named before (by simp)
      obtain ⟨parent, found, shape⟩ := parent_segments (pathOf (front ++ [before] ++ [name])) front before name segments
        last.audible beforeNamed.audible
      rw [found]
      congr 1
      apply path_of_segments
      rw [shape, path_of_segments_here _ fun other inside => named other (List.mem_append_left _ inside),
        if_neg (by simp)]

theorem path_of_components (place : Place) (named : ∀ name ∈ place, IsName name) :
    (pathOf place).components = .root :: place.map .name := by
  rw [components, path_of_segments_here place named]
  by_cases top : place = []
  · subst top
    rfl
  · rw [if_neg top, componentsOfSegments, if_neg (by simpa using top), named_components place named]

end Disk

end ScriptSuite.FileSystem
