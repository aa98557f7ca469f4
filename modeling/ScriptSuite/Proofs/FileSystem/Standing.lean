import ScriptSuite.Proofs.FileSystem.Furnishing

set_option autoImplicit false

namespace ScriptSuite.FileSystem

open ScriptSuite.Path

theorem lookup_remove_entry (name other : String) (entries : Entries) :
    (removeEntry name entries).lookup other = if other = name then none else entries.lookup other := by
  induction entries with
  | nil => simp [removeEntry]
  | cons entry rest step =>
      obtain ⟨first, node⟩ := entry
      rw [removeEntry] at step ⊢
      by_cases here : first = name
      · rw [List.filter_cons_of_neg (by simpa using here), step, List.lookup_cons]
        by_cases same : other = name
        · rw [if_pos same, if_pos same]
        · rw [if_neg same, if_neg same, beq_eq_false_iff_ne.mpr (here ▸ same)]
      · rw [List.filter_cons_of_pos (by simpa using here), List.lookup_cons, List.lookup_cons, step]
        by_cases same : other = first
        · subst same
          rw [if_neg here, if_neg here]
        · rw [beq_eq_false_iff_ne.mpr same]

theorem remove_entry_absent (name : String) (entries : Entries) (absent : entries.lookup name = none) :
    removeEntry name entries = entries := by
  refine List.filter_eq_self.mpr fun entry inside => ?_
  have other : entry.1 ≠ name := by
    rintro rfl
    simpa using List.lookup_eq_none_iff.mp absent entry inside
  simpa using other

namespace Entries

variable {entries inner : Entries} {directory : Place} {name : String}

theorem remove_absent (held : entries.at? directory = some (.directory inner)) (absent : inner.lookup name = none) :
    entries.remove (directory ++ [name]) = entries := by
  induction directory generalizing entries with
  | nil =>
      cases held
      exact remove_entry_absent name _ absent
  | cons first rest step =>
      obtain ⟨children, found, deeper⟩ := held_below entries inner first rest held
      rw [List.cons_append, remove_through entries children first _ (by simp) found, step deeper,
        set_entry_same first _ entries found]

theorem remove_leaves (entries : Entries) (place other : Place) (node : Node)
    (left : (entries.remove place).at? other = some node) :
    ∃ old, entries.at? other = some old ∧ old.kind = node.kind ∧ (node.kind ≠ .directory → old = node) := by
  induction place generalizing entries other with
  | nil => exact ⟨node, left, rfl, fun _ => rfl⟩
  | cons name rest step =>
      cases other with
      | nil =>
          cases left
          exact ⟨.directory entries, rfl, rfl, fun plain => absurd rfl plain⟩
      | cons first below =>
          rw [at_cons] at left
          cases rest with
          | nil =>
              rw [remove, lookup_remove_entry] at left
              by_cases here : first = name
              · rw [if_pos here] at left
                cases left
              · rw [if_neg here, ← at_cons] at left
                exact ⟨node, left, rfl, fun _ => rfl⟩
          | cons next others =>
              rw [remove_cons] at left
              split at left
              · rename_i inner found
                rw [lookup_set_entry] at left
                by_cases here : first = name
                · rw [if_pos here, Option.bind_some] at left
                  obtain ⟨old, held, kind, same⟩ := step inner below left
                  refine ⟨old, ?_, kind, same⟩
                  rw [at_cons, here, found, Option.bind_some]
                  exact held
                · rw [if_neg here, ← at_cons] at left
                  exact ⟨node, left, rfl, fun _ => rfl⟩
              · rw [← at_cons] at left
                exact ⟨node, left, rfl, fun _ => rfl⟩

end Entries

namespace Disk

open Place

section

variable {disk : Disk} {directory : Place} {name : String} {entries : Entries}

theorem remove_keeps (disk : Disk) (place : Place) : Keeps (disk.remove place) disk := by
  refine ⟨rfl, fun other held => ?_, fun other node held plain => ?_⟩
  · obtain ⟨inner, held⟩ := (kind_at_directory _ other).mp held
    obtain ⟨old, found, kind, -⟩ := Entries.remove_leaves disk.entries place other _ held
    exact (congrArg (Option.map Node.kind) found).trans (congrArg some kind)
  · obtain ⟨old, found, -, same⟩ := Entries.remove_leaves disk.entries place other node held
    exact same plain ▸ found

theorem remove_absent (held : disk.at? directory = some (.directory entries)) (absent : entries.lookup name = none) :
    disk.remove (directory ++ [name]) = disk := by
  rw [remove, Entries.remove_absent held absent]

end

section

variable {disk made kept : Disk} {here directory : Place} {name target : String} {slashed followLast : Bool}

theorem walk_missing_lacks (segments : List String)
    (missing : disk.walk followLast here segments = .ok (.missing directory name slashed)) : disk.Lacks directory name := by
  induction segments generalizing here with
  | nil => cases missing
  | cons segment rest step =>
      rcases walk_cons_cases followLast _ missing with enters | ⟨target, leads⟩ | ⟨lacks, _, same⟩
      · rw [walk_enters followLast enters] at missing
        exact step missing
      · rw [walk_leads followLast leads] at missing
        split at missing <;> cases missing
      · cases same
        exact lacks

theorem follow_missing_lacks (budget : Nat) (segments : List String)
    (missing : disk.follow followLast budget here segments = .ok (.missing directory name slashed)) :
    disk.Lacks directory name := by
  induction budget generalizing here segments with
  | zero => cases missing
  | succ budget step =>
      rw [follow] at missing
      split at missing
      · exact step _ missing
      · exact walk_missing_lacks segments missing

theorem reach_missing_lacks (path : Path) (missing : disk.reach followLast path = .ok (.missing directory name slashed)) :
    disk.Lacks directory name := by
  rw [reach] at missing
  split at missing
  · cases missing
  · exact follow_missing_lacks _ _ missing

theorem walk_slashes (segments : List String) (stands : disk.kindAt here = some .directory)
    (slashes : ∀ segment ∈ segments, segment = "") : disk.walk followLast here segments = .ok (.arrived here) := by
  induction segments with
  | nil => rfl
  | cons segment rest step =>
      obtain rfl := slashes segment (List.mem_cons_self ..)
      have enters : disk.Enters here "" := ⟨stands, fun audible => absurd audible (by decide)⟩
      rw [walk_enters followLast enters, after_silent here "" (by decide)]
      exact step fun other inside => slashes other (List.mem_cons_of_mem _ inside)

theorem walk_lacks (segment : String) (rest : List String) (lacks : disk.Lacks here segment) :
    disk.walk followLast here (segment :: rest) =
      if rest.all (· == "") then .ok (.missing here segment (!rest.isEmpty)) else .error .notFound := by
  obtain ⟨entries, held⟩ := (kind_at_directory disk here).mp lacks.directory
  have absent := (at_entry disk here entries segment held).symm.trans lacks.absent
  rw [walk, held]
  dsimp only
  rw [if_neg (by simp [lacks.audible]), if_neg lacks.notParent, absent]

theorem walk_made (keeps : Keeps disk kept) (stands : kept.kindAt (directory ++ [name]) = some .directory)
    (segments : List String) (missing : disk.walk followLast here segments = .ok (.missing directory name slashed)) :
    kept.walk true here segments = .ok (.arrived (directory ++ [name])) := by
  induction segments generalizing here with
  | nil => cases missing
  | cons segment rest step =>
      rcases walk_cons_cases followLast _ missing with enters | ⟨target, leads⟩ | ⟨lacks, _, same⟩
      · rw [walk_enters followLast enters] at missing
        rw [walk_enters true (keeps_enters keeps enters)]
        exact step missing
      · rw [walk_leads followLast leads] at missing
        split at missing <;> cases missing
      · cases same
        have enters : kept.Enters directory name := by
          refine ⟨keeps.directory directory lacks.directory, fun _ _ => ?_⟩
          obtain ⟨entries, held⟩ := (kind_at_directory kept _).mp stands
          exact ⟨_, held, fun _ => Node.noConfusion⟩
        rw [walk_lacks name rest lacks] at missing
        have slashes : ∀ segment ∈ rest, segment = "" := by
          split at missing
          · rename_i blank
            simpa using blank
          · cases missing
        rw [walk_enters true enters, after_name _ name lacks.audible lacks.notParent]
        exact walk_slashes rest stands slashes

theorem walk_redirected_kept (keeps : Keeps disk kept) (segments rest : List String)
    (redirected : disk.walk followLast here segments = .ok (.redirected directory target rest)) :
    kept.walk true here segments = .ok (.redirected directory target rest) := by
  induction segments generalizing here with
  | nil => cases redirected
  | cons segment others step =>
      rcases walk_cons_cases followLast _ redirected with enters | ⟨_, leads⟩ | ⟨_, _, same⟩
      · rw [walk_enters followLast enters] at redirected
        rw [walk_enters true (keeps_enters keeps enters)]
        exact step redirected
      · rw [walk_leads followLast leads] at redirected
        rw [walk_leads true (keeps_leads keeps leads), Bool.not_true, Bool.and_false, if_neg Bool.false_ne_true]
        split at redirected
        · cases redirected
        · exact redirected
      · cases same

theorem follow_made (keeps : Keeps disk kept) (stands : kept.kindAt (directory ++ [name]) = some .directory) (budget : Nat)
    (segments : List String) (missing : disk.follow followLast budget here segments = .ok (.missing directory name slashed)) :
    kept.follow true budget here segments = .ok (.arrived (directory ++ [name])) := by
  induction budget generalizing here segments with
  | zero => cases missing
  | succ budget step =>
      rw [follow] at missing ⊢
      split at missing
      · rename_i place target rest redirected
        rw [walk_redirected_kept keeps segments rest redirected]
        exact step _ missing
      · rw [walk_made keeps stands segments missing]

theorem is_directory_iff (path : Path) :
    disk.isDirectory path = true ↔ ∃ place, disk.locate path = .ok place ∧ disk.kindAt place = some .directory := by
  rw [isDirectory, node]
  cases located : disk.locate path with
  | error fault => simp [bind, Except.bind]
  | ok place =>
      simp only [bind, Except.bind, Except.ok.injEq, exists_eq_left', kindAt]
      cases disk.at? place with
      | none => simp
      | some node => cases node <;> simp [Node.kind]

theorem create_directory_made (path : Path) (created : disk.createDirectory path = .ok made) :
    Keeps disk made ∧ made.isDirectory path = true := by
  rw [createDirectory] at created
  cases reached : disk.reach false path with
  | error fault =>
      rw [reached] at created
      cases created
  | ok walked =>
      rw [reached] at created
      cases walked with
      | arrived place => cases created
      | redirected directory target rest => cases created
      | missing directory name slashed =>
          cases created
          have lacks := reach_missing_lacks path reached
          obtain ⟨entries, held⟩ := (kind_at_directory disk directory).mp lacks.directory
          have absent := (at_entry disk directory entries name held).symm.trans lacks.absent
          have keeps := put_keeps (.directory []) held absent
          have stands : (disk.put (directory ++ [name]) (.directory [])).kindAt (directory ++ [name]) = some .directory := by
            rw [kind_at_put disk directory name _ Node.bare_directory lacks.directory, if_pos rfl]
            rfl
          refine ⟨keeps, (is_directory_iff path).mpr ⟨directory ++ [name], (locate_reach path).mpr ?_, stands⟩⟩
          rw [reach] at reached ⊢
          split at reached
          · cases reached
          · rename_i nonempty
            rw [if_neg nonempty, origin, keeps.workingDirectory, ← origin]
            exact follow_made keeps stands _ _ reached

theorem after_each_keeps (paths : List Path) : Keeps disk (disk.afterEach paths) := by
  induction paths generalizing disk with
  | nil => exact keeps_refl disk
  | cons path rest step =>
      rw [afterEach]
      cases first : disk.createDirectory path with
      | ok middle => exact keeps_trans (create_directory_made path first).1 step
      | error fault =>
          dsimp only
          split
          · exact step
          · exact keeps_refl disk

theorem after_directories_keeps (disk : Disk) (path : Path) : Keeps disk (disk.afterDirectories path) := by
  rw [afterDirectories]
  split
  · exact keeps_refl disk
  · exact after_each_keeps _

theorem create_each_stands (paths : List Path) (path : Path) (created : disk.createEach (paths ++ [path]) = .ok made) :
    made.isDirectory path = true := by
  induction paths generalizing disk with
  | nil =>
      rw [List.nil_append, createEach] at created
      cases first : disk.createDirectory path with
      | ok middle =>
          rw [first] at created
          cases created
          exact (create_directory_made path first).2
      | error fault =>
          rw [first] at created
          dsimp only at created
          split at created
          · cases created
            assumption
          · cases created
  | cons other rest step =>
      rw [List.cons_append, createEach] at created
      split at created
      · exact step created
      · split at created
        · exact step created
        · cases created

theorem missing_ancestors_last (fuel : Nat) (path : Path) (found : List Path) :
    ∃ front, disk.missingAncestors fuel path found = front ++ path :: found := by
  induction fuel generalizing path found with
  | zero => exact ⟨[], rfl⟩
  | succ fuel step =>
      rw [missingAncestors]
      split
      · split
        · rename_i parent _
          split
          · exact ⟨[], rfl⟩
          · obtain ⟨front, shape⟩ := step parent (path :: found)
            exact ⟨front ++ [parent], by rw [shape]; simp⟩
        · exact ⟨[], rfl⟩
      · exact ⟨[], rfl⟩

theorem create_directories_stands (path : Path) (nonempty : path.text ≠ "")
    (created : disk.createDirectories path = .ok made) : made.isDirectory path = true := by
  rw [createDirectories, if_neg nonempty] at created
  obtain ⟨front, shape⟩ : ∃ front, disk.missingAncestors path.text.length path [] = front ++ [path] :=
    missing_ancestors_last _ path []
  rw [shape] at created
  exact create_each_stands front path created

end

def child? (disk : Disk) (path : Path) (name : String) : Option Node :=
  match disk.locate path with
  | .ok place => disk.at? (place ++ [name])
  | .error _ => none

structure Undisturbed (root : Path) (disk other : Disk) : Prop where
  workingDirectory : other.workingDirectory = disk.workingDirectory
  found : ∀ path ∈ [root, disk.absolute root], ∀ place, disk.locate path = .ok place →
    disk.kindAt place = some .directory →
      other.locate path = .ok place ∧ other.kindAt place = some .directory ∧
        ∀ name, other.at? (place ++ [name]) = disk.at? (place ++ [name])

section

variable {disk middle other : Disk} {root : Path}

theorem undisturbed_refl (root : Path) (disk : Disk) : Undisturbed root disk disk :=
  ⟨rfl, fun _ _ _ located stands => ⟨located, stands, fun _ => rfl⟩⟩

theorem same_absolute (same : other.workingDirectory = disk.workingDirectory) (path : Path) :
    other.absolute path = disk.absolute path := by
  rw [absolute, absolute, currentPath, currentPath, same]

theorem undisturbed_trans (first : Undisturbed root disk middle) (second : Undisturbed root middle other) :
    Undisturbed root disk other := by
  refine ⟨second.workingDirectory.trans first.workingDirectory, fun path member place located stands => ?_⟩
  obtain ⟨middleLocated, middleStands, middleEntries⟩ := first.found path member place located stands
  rw [← same_absolute first.workingDirectory] at member
  obtain ⟨otherLocated, otherStands, otherEntries⟩ := second.found path member place middleLocated middleStands
  exact ⟨otherLocated, otherStands, fun name => (otherEntries name).trans (middleEntries name)⟩

theorem undisturbed_directory (undisturbed : Undisturbed root disk other) {path : Path}
    (member : path ∈ [root, disk.absolute root]) (stands : disk.isDirectory path = true) :
    other.isDirectory path = true ∧ ∀ name, other.child? path name = disk.child? path name := by
  obtain ⟨place, located, held⟩ := (is_directory_iff path).mp stands
  obtain ⟨otherLocated, otherHeld, entries⟩ := undisturbed.found path member place located held
  refine ⟨(is_directory_iff path).mpr ⟨place, otherLocated, otherHeld⟩, fun name => ?_⟩
  rw [child?, child?, located, otherLocated]
  exact entries name

end

end Disk

end ScriptSuite.FileSystem
