import ScriptSuite.Proofs.FileSystem.Walking

set_option autoImplicit false

namespace ScriptSuite.FileSystem.Disk

open ScriptSuite.Path Place

structure Enters (disk : Disk) (here : Place) (segment : String) : Prop where
  directory : disk.kindAt here = some .directory
  plain : isSilent segment = false → segment ≠ ".." →
    ∃ node, disk.at? (here ++ [segment]) = some node ∧ ∀ target, node ≠ .link target

structure Leads (disk : Disk) (here : Place) (segment target : String) : Prop where
  directory : disk.kindAt here = some .directory
  audible : isSilent segment = false
  notParent : segment ≠ ".."
  link : disk.at? (here ++ [segment]) = some (.link target)

structure Lacks (disk : Disk) (here : Place) (segment : String) : Prop where
  directory : disk.kindAt here = some .directory
  audible : isSilent segment = false
  notParent : segment ≠ ".."
  absent : disk.at? (here ++ [segment]) = none

section

variable {disk kept : Disk} {here there : Place} {segment target : String} {rest : List String}

theorem walk_enters (followLast : Bool) (enters : disk.Enters here segment) :
    disk.walk followLast here (segment :: rest) = disk.walk followLast (after here segment) rest := by
  obtain ⟨entries, held⟩ := (kind_at_directory disk here).mp enters.directory
  rw [walk, held, after]
  dsimp only
  by_cases silent : isSilent segment = true
  · rw [if_pos silent, if_pos silent]
  · rw [if_neg silent, if_neg silent]
    by_cases parent : segment = ".."
    · rw [if_pos parent, if_pos parent]
    · obtain ⟨node, present, plain⟩ := enters.plain (Bool.eq_false_iff.mpr silent) parent
      rw [at_entry disk here entries segment held] at present
      rw [if_neg parent, if_neg parent, present]
      cases node with
      | file content mode => rfl
      | directory inner => rfl
      | link target => exact absurd rfl (plain target)

theorem walk_leads (followLast : Bool) (leads : disk.Leads here segment target) :
    disk.walk followLast here (segment :: rest) =
      if rest.isEmpty && !followLast then .ok (.arrived (here ++ [segment])) else .ok (.redirected here target rest) := by
  obtain ⟨entries, held⟩ := (kind_at_directory disk here).mp leads.directory
  have found := (at_entry disk here entries segment held).symm.trans leads.link
  rw [walk, held]
  dsimp only
  rw [if_neg (by simp [leads.audible]), if_neg leads.notParent, found]

theorem walk_cons_cases (followLast : Bool) (walked : Walk)
    (leads : disk.walk followLast here (segment :: rest) = .ok walked) :
    disk.Enters here segment ∨ (∃ target, disk.Leads here segment target) ∨
      disk.Lacks here segment ∧ ∃ slashed, walked = .missing here segment slashed := by
  rw [walk] at leads
  cases held : disk.at? here with
  | none => simp [held] at leads
  | some node =>
      cases node with
      | file content mode => simp [held] at leads
      | link target => simp [held] at leads
      | directory entries =>
          have directory : disk.kindAt here = some .directory := (kind_at_directory disk here).mpr ⟨entries, held⟩
          have entry := at_entry disk here entries segment held
          rw [held] at leads
          dsimp only at leads
          by_cases silent : isSilent segment = true
          · exact .inl ⟨directory, fun audible => absurd (silent.symm.trans audible) (by decide)⟩
          · rw [if_neg silent] at leads
            have audible := Bool.eq_false_iff.mpr silent
            by_cases parent : segment = ".."
            · exact .inl ⟨directory, fun _ notParent => absurd parent notParent⟩
            · rw [if_neg parent] at leads
              cases found : entries.lookup segment with
              | none =>
                  rw [found] at leads
                  dsimp only at leads
                  split at leads
                  · exact .inr (.inr ⟨⟨directory, audible, parent, entry.trans found⟩, _, (Except.ok.inj leads).symm⟩)
                  · cases leads
              | some child =>
                  rw [found] at entry
                  cases child with
                  | file content mode => exact .inl ⟨directory, fun _ _ => ⟨_, entry, fun _ => Node.noConfusion⟩⟩
                  | directory inner => exact .inl ⟨directory, fun _ _ => ⟨_, entry, fun _ => Node.noConfusion⟩⟩
                  | link target => exact .inr (.inl ⟨target, directory, audible, parent, entry⟩)

theorem walk_arrived_append (followLast : Bool) (left right : List String)
    (arrived : disk.walk true here left = .ok (.arrived there)) :
    disk.walk followLast here (left ++ right) = disk.walk followLast there right := by
  induction left generalizing here with
  | nil =>
      rw [walk] at arrived
      cases arrived
      rfl
  | cons segment rest step =>
      rw [List.cons_append]
      rcases walk_cons_cases true _ arrived with enters | ⟨target, leads⟩ | ⟨_, slashed, missing⟩
      · rw [walk_enters true enters] at arrived
        rw [walk_enters followLast enters]
        exact step arrived
      · rw [walk_leads true leads, Bool.not_true, Bool.and_false, if_neg Bool.false_ne_true] at arrived
        cases arrived
      · cases missing

theorem walk_redirected_append (followLast : Bool) (directory : Place) (left right others : List String)
    (goesOn : right ≠ [] ∨ followLast = true)
    (redirected : disk.walk true here left = .ok (.redirected directory target others)) :
    disk.walk followLast here (left ++ right) = .ok (.redirected directory target (others ++ right)) := by
  induction left generalizing here with
  | nil =>
      rw [walk] at redirected
      cases redirected
  | cons segment rest step =>
      rw [List.cons_append]
      rcases walk_cons_cases true _ redirected with enters | ⟨name, leads⟩ | ⟨_, slashed, missing⟩
      · rw [walk_enters true enters] at redirected
        rw [walk_enters followLast enters]
        exact step redirected
      · have through : ((rest ++ right).isEmpty && !followLast) = false := by
          rcases goesOn with more | last
          · simp [more]
          · simp [last]
        rw [walk_leads true leads, Bool.not_true, Bool.and_false, if_neg Bool.false_ne_true] at redirected
        rw [walk_leads followLast leads, through, if_neg Bool.false_ne_true]
        cases redirected
        rfl
      · cases missing

theorem follow_append (followLast : Bool) (budget : Nat) (left right : List String)
    (goesOn : right ≠ [] ∨ followLast = true)
    (arrived : disk.follow true budget here left = .ok (.arrived there)) :
    ∃ remaining, disk.follow followLast budget here (left ++ right) =
      disk.follow followLast (remaining + 1) there right := by
  induction budget generalizing here left with
  | zero => cases arrived
  | succ budget step =>
      rw [follow] at arrived
      split at arrived
      · rename_i directory target others redirected
        have onwards := walk_redirected_append followLast directory left right others goesOn redirected
        obtain ⟨remaining, same⟩ := step _ arrived
        rw [List.append_assoc] at same
        refine ⟨remaining, ?_⟩
        rw [follow, onwards]
        exact same
      · refine ⟨budget, ?_⟩
        rw [follow, follow, walk_arrived_append followLast left right arrived]

theorem walk_unfollowed (segments : List String)
    (goes : disk.walk true here segments = .ok (.arrived there)) :
    disk.walk false here segments = .ok (.arrived there) := by
  have same := walk_arrived_append false segments [] goes
  rw [List.append_nil] at same
  rw [same, walk]

theorem walk_unfollowed_redirected (directory : Place) (segments others : List String)
    (redirected : disk.walk true here segments = .ok (.redirected directory target others)) :
    (∃ place, disk.walk false here segments = .ok (.arrived place)) ∨
      disk.walk false here segments = .ok (.redirected directory target others) := by
  induction segments generalizing here with
  | nil =>
      rw [walk] at redirected
      cases redirected
  | cons segment rest step =>
      rcases walk_cons_cases true _ redirected with enters | ⟨name, leads⟩ | ⟨_, slashed, missing⟩
      · rw [walk_enters true enters] at redirected
        rw [walk_enters false enters]
        exact step redirected
      · rw [walk_leads true leads, Bool.not_true, Bool.and_false, if_neg Bool.false_ne_true] at redirected
        rw [walk_leads false leads]
        split
        · exact .inl ⟨_, rfl⟩
        · exact .inr redirected
      · cases missing

theorem follow_unfollowed (budget : Nat) (segments : List String)
    (arrived : disk.follow true budget here segments = .ok (.arrived there)) :
    ∃ place, disk.follow false budget here segments = .ok (.arrived place) := by
  induction budget generalizing here segments with
  | zero => cases arrived
  | succ budget step =>
      rw [follow] at arrived
      split at arrived
      · rename_i directory target others redirected
        rcases walk_unfollowed_redirected directory segments others redirected with ⟨place, ends⟩ | same
        · exact ⟨place, by rw [follow, ends]⟩
        · rw [follow, same]
          exact step _ arrived
      · exact ⟨there, by rw [follow, walk_unfollowed segments arrived]⟩

theorem locate_reach (path : Path) : disk.locate path = .ok there ↔ disk.reach true path = .ok (.arrived there) := by
  rw [locate]
  cases disk.reach true path with
  | error fault => simp
  | ok walked => cases walked <;> simp

theorem locate_follow (path : Path) : disk.locate path = .ok there ↔
    path.text ≠ "" ∧ disk.follow true (maxLinks + 1) (disk.origin path) path.segments = .ok (.arrived there) := by
  rw [locate_reach, reach]
  by_cases empty : path.text = ""
  · rw [if_pos empty]
    exact ⟨fun same => (by cases same), fun both => absurd empty both.1⟩
  · rw [if_neg empty, and_iff_right empty]

theorem located_reached (path : Path) (located : disk.locate path = .ok there) :
    ∃ place, disk.reach false path = .ok (.arrived place) := by
  obtain ⟨nonempty, arrived⟩ := (locate_follow path).mp located
  obtain ⟨place, ends⟩ := follow_unfollowed _ _ arrived
  exact ⟨place, by rw [reach, if_neg nonempty, ends]⟩

end

structure Keeps (disk kept : Disk) : Prop where
  workingDirectory : kept.workingDirectory = disk.workingDirectory
  directory : ∀ place, disk.kindAt place = some .directory → kept.kindAt place = some .directory
  other : ∀ place node, disk.at? place = some node → node.kind ≠ .directory → kept.at? place = some node

section

variable {disk middle kept : Disk} {here there : Place} {segment target : String}

theorem keeps_refl (disk : Disk) : Keeps disk disk :=
  ⟨rfl, fun _ => id, fun _ _ same _ => same⟩

theorem keeps_trans (first : Keeps disk middle) (second : Keeps middle kept) : Keeps disk kept :=
  ⟨second.workingDirectory.trans first.workingDirectory, fun place held => second.directory place (first.directory place held),
    fun place node held plain => second.other place node (first.other place node held plain) plain⟩

theorem keeps_enters (keeps : Keeps disk kept) (enters : disk.Enters here segment) : kept.Enters here segment := by
  refine ⟨keeps.directory here enters.directory, fun audible notParent => ?_⟩
  obtain ⟨node, held, plain⟩ := enters.plain audible notParent
  by_cases directory : node.kind = .directory
  · have stands := keeps.directory _ ((kind_at_directory disk _).mpr (by
      cases node with
      | directory entries => exact ⟨entries, held⟩
      | file content mode => cases directory
      | link target => cases directory))
    obtain ⟨entries, stays⟩ := (kind_at_directory kept _).mp stands
    exact ⟨_, stays, fun _ => Node.noConfusion⟩
  · exact ⟨node, keeps.other _ node held directory, plain⟩

theorem keeps_leads (keeps : Keeps disk kept) (leads : disk.Leads here segment target) :
    kept.Leads here segment target :=
  ⟨keeps.directory here leads.directory, leads.audible, leads.notParent,
    keeps.other _ _ leads.link (by simp [Node.kind])⟩

theorem keeps_walk (keeps : Keeps disk kept) (segments : List String) (walked : Walk)
    (goes : disk.walk true here segments = .ok walked)
    (onTheDisk : ∀ directory name slashed, walked ≠ .missing directory name slashed) :
    kept.walk true here segments = .ok walked := by
  induction segments generalizing here with
  | nil => exact goes
  | cons segment rest step =>
      rcases walk_cons_cases true _ goes with enters | ⟨name, leads⟩ | ⟨_, slashed, missing⟩
      · rw [walk_enters true enters] at goes
        rw [walk_enters true (keeps_enters keeps enters)]
        exact step goes
      · rw [walk_leads true leads] at goes
        rw [walk_leads true (keeps_leads keeps leads)]
        exact goes
      · exact absurd missing (onTheDisk _ _ _)

theorem keeps_follow (keeps : Keeps disk kept) (budget : Nat) (segments : List String)
    (arrived : disk.follow true budget here segments = .ok (.arrived there)) :
    kept.follow true budget here segments = .ok (.arrived there) := by
  induction budget generalizing here segments with
  | zero => cases arrived
  | succ budget step =>
      rw [follow] at arrived ⊢
      split at arrived
      · rename_i directory target others redirected
        rw [keeps_walk keeps segments _ redirected fun _ _ _ => Walk.noConfusion]
        exact step _ arrived
      · rw [keeps_walk keeps segments _ arrived fun _ _ _ => Walk.noConfusion]

theorem keeps_locate (keeps : Keeps disk kept) (path : Path) (located : disk.locate path = .ok there) :
    kept.locate path = .ok there := by
  obtain ⟨nonempty, arrived⟩ := (locate_follow path).mp located
  refine (locate_follow path).mpr ⟨nonempty, ?_⟩
  rw [origin, keeps.workingDirectory, ← origin]
  exact keeps_follow keeps _ _ arrived

theorem keeps_canonicalize (keeps : Keeps disk kept) (path canonical : Path) (found : disk.canonicalize path = .ok canonical) :
    kept.canonicalize path = .ok canonical := by
  cases located : disk.locate path with
  | error fault =>
      rw [canonicalize, located] at found
      cases found
  | ok place =>
      rw [canonicalize, located] at found
      rw [canonicalize, keeps_locate keeps path located]
      exact found

end

section

variable {disk : Disk} {here there : Place}

theorem walk_names (segments : List String) (followLast : Bool) (walked : Walk) (named : ∀ name ∈ here, IsName name)
    (unslashed : ∀ segment ∈ segments, '/' ∉ segment.toList)
    (goes : disk.walk followLast here segments = .ok walked) :
    (∀ place, walked = .arrived place → ∀ name ∈ place, IsName name) ∧
      ∀ directory target others, walked = .redirected directory target others →
        (∀ name ∈ directory, IsName name) ∧ ∀ segment ∈ others, '/' ∉ segment.toList := by
  induction segments generalizing here with
  | nil =>
      rw [walk] at goes
      cases goes
      exact ⟨fun place same => Walk.arrived.inj same ▸ named, fun _ _ _ same => Walk.noConfusion same⟩
  | cons segment rest step =>
      have later : ∀ other ∈ rest, '/' ∉ other.toList := fun other inside =>
        unslashed other (List.mem_cons_of_mem _ inside)
      rcases walk_cons_cases followLast _ goes with enters | ⟨target, leads⟩ | ⟨_, slashed, rfl⟩
      · rw [walk_enters followLast enters] at goes
        exact step (after_keeps_names here segment named (unslashed segment (List.mem_cons_self ..))) later goes
      · rw [walk_leads followLast leads] at goes
        split at goes
        · cases goes
          refine ⟨fun place same => ?_, fun _ _ _ same => Walk.noConfusion same⟩
          have names := after_keeps_names here segment named (unslashed segment (List.mem_cons_self ..))
          rw [after_name here segment leads.audible leads.notParent] at names
          exact Walk.arrived.inj same ▸ names
        · cases goes
          refine ⟨fun _ same => Walk.noConfusion same, fun directory _ others same => ?_⟩
          obtain ⟨rfl, _, rfl⟩ := Walk.redirected.inj same
          exact ⟨named, later⟩
      · exact ⟨fun _ same => Walk.noConfusion same, fun _ _ _ same => Walk.noConfusion same⟩

theorem follow_names (budget : Nat) (segments : List String) (named : ∀ name ∈ here, IsName name)
    (unslashed : ∀ segment ∈ segments, '/' ∉ segment.toList)
    (arrived : disk.follow true budget here segments = .ok (.arrived there)) : ∀ name ∈ there, IsName name := by
  induction budget generalizing here segments with
  | zero => cases arrived
  | succ budget step =>
      rw [follow] at arrived
      split at arrived
      · rename_i directory target others redirected
        obtain ⟨_, names⟩ := walk_names segments true _ named unslashed redirected
        obtain ⟨directoryNamed, othersUnslashed⟩ := names _ _ _ rfl
        refine step _ ?_ ?_ arrived
        · split
          · exact fun _ inside => absurd inside List.not_mem_nil
          · exact directoryNamed
        · intro segment inside
          rcases List.mem_append.mp inside with own | other
          · exact segments_unslashed _ segment own
          · exact othersUnslashed segment other
      · exact (walk_names segments true _ named unslashed arrived).1 there rfl

theorem enters_plain (segment : String) (enters : disk.Enters here segment) :
    ∃ node, disk.at? (after here segment) = some node ∧ ∀ target, node ≠ .link target := by
  have plain : ∀ place, disk.kindAt place = some .directory →
      ∃ node, disk.at? place = some node ∧ ∀ target, node ≠ .link target := by
    intro place stands
    obtain ⟨entries, held⟩ := (kind_at_directory disk place).mp stands
    exact ⟨_, held, fun _ => Node.noConfusion⟩
  by_cases silent : isSilent segment = true
  · rw [after_silent here segment silent]
    exact plain here enters.directory
  · by_cases parent : segment = ".."
    · rw [parent, after_parent]
      exact plain _ (parent_stands here enters.directory)
    · have audible := Bool.eq_false_iff.mpr silent
      rw [after_name here segment audible parent]
      exact enters.plain audible parent

theorem walk_plain (segments : List String)
    (stands : ∃ node, disk.at? here = some node ∧ ∀ target, node ≠ .link target)
    (arrived : disk.walk true here segments = .ok (.arrived there)) :
    ∃ node, disk.at? there = some node ∧ ∀ target, node ≠ .link target := by
  induction segments generalizing here with
  | nil =>
      rw [walk] at arrived
      cases arrived
      exact stands
  | cons segment rest step =>
      rcases walk_cons_cases true _ arrived with enters | ⟨target, leads⟩ | ⟨_, slashed, missing⟩
      · rw [walk_enters true enters] at arrived
        exact step (enters_plain segment enters) arrived
      · rw [walk_leads true leads, Bool.not_true, Bool.and_false, if_neg Bool.false_ne_true] at arrived
        cases arrived
      · cases missing

theorem follow_plain (budget : Nat) (segments : List String) (nonempty : segments ≠ [])
    (arrived : disk.follow true budget here segments = .ok (.arrived there)) :
    ∃ node, disk.at? there = some node ∧ ∀ target, node ≠ .link target := by
  induction budget generalizing here segments with
  | zero => cases arrived
  | succ budget step =>
      rw [follow] at arrived
      split at arrived
      · exact step _ (List.append_ne_nil_of_left_ne_nil (segments_ne_nil _) _) arrived
      · obtain ⟨segment, rest, rfl⟩ := List.exists_cons_of_ne_nil nonempty
        rcases walk_cons_cases true _ arrived with enters | ⟨target, leads⟩ | ⟨_, slashed, missing⟩
        · rw [walk_enters true enters] at arrived
          exact walk_plain rest (enters_plain segment enters) arrived
        · rw [walk_leads true leads, Bool.not_true, Bool.and_false, if_neg Bool.false_ne_true] at arrived
          cases arrived
        · cases missing

theorem locate_plain (path : Path) (located : disk.locate path = .ok there) :
    ∃ node, disk.at? there = some node ∧ ∀ target, node ≠ .link target := by
  obtain ⟨_, arrived⟩ := (locate_follow path).mp located
  exact follow_plain _ _ (segments_ne_nil path) arrived

theorem locate_named (path : Path) (named : ∀ name ∈ disk.workingDirectory, IsName name)
    (located : disk.locate path = .ok there) : ∀ name ∈ there, IsName name := by
  obtain ⟨_, arrived⟩ := (locate_follow path).mp located
  refine follow_names _ _ ?_ (segments_unslashed path) arrived
  rw [origin]
  split
  · exact fun _ inside => absurd inside List.not_mem_nil
  · exact named

end

end ScriptSuite.FileSystem.Disk
