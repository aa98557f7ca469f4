import ScriptSuite.Proofs.FileSystem.Making
import ScriptSuite.Staging

set_option autoImplicit false

namespace ScriptSuite.Staging

open FileSystem FileSystem.Disk FileSystem.Place ScriptSuite.Path

theorem below_iff (base path relative : List Component) :
    below? base path = some relative ↔ path = base ++ relative := by
  induction base generalizing path with
  | nil => simp [below?]
  | cons first rest step =>
      cases path with
      | nil => simp [below?]
      | cons other others =>
          rw [below?, List.cons_append, List.cons.injEq]
          by_cases same : first = other
          · rw [if_pos same, step, and_iff_right same.symm]
          · rw [if_neg same]
            exact ⟨nofun, fun ⟨equal, _⟩ => absurd equal.symm same⟩

theorem common_within (left right : List Component) :
    commonPrefix left right <+: left ∧ commonPrefix left right <+: right := by
  induction left generalizing right with
  | nil => simp [commonPrefix]
  | cons a as step =>
      cases right with
      | nil => simp [commonPrefix]
      | cons b bs =>
          rw [commonPrefix]
          by_cases same : a = b
          · rw [if_pos same, ← same]
            exact ⟨List.cons_prefix_cons.mpr ⟨rfl, (step bs).1⟩, List.cons_prefix_cons.mpr ⟨rfl, (step bs).2⟩⟩
          · rw [if_neg same]
            exact ⟨List.nil_prefix, List.nil_prefix⟩

theorem base_within (directory : Path) (files : List Path) :
    baseOf directory files <+: directory.components ∧
      ∀ file ∈ files, ∀ parent, file.parent? = some parent → baseOf directory files <+: parent.components := by
  have fold : ∀ (directories : List Path) (base : List Component),
      directories.foldl (fun base directory => commonPrefix base directory.components) base <+: base ∧
        ∀ other ∈ directories,
          directories.foldl (fun base directory => commonPrefix base directory.components) base <+:
            other.components := by
    intro directories
    induction directories with
    | nil => exact fun base => ⟨List.prefix_rfl, nofun⟩
    | cons first rest step =>
        intro base
        obtain ⟨shorter, others⟩ := step (commonPrefix base first.components)
        have within := common_within base first.components
        refine ⟨shorter.trans within.1, fun other member => ?_⟩
        rcases List.mem_cons.mp member with rfl | later
        · exact shorter.trans within.2
        · exact others other later
  obtain ⟨whole, others⟩ := fold (files.filterMap parent?) directory.components
  exact ⟨whole, fun file member parent up => others parent (List.mem_filterMap.mpr ⟨file, member, up⟩)⟩

structure Lies (base : Place) (file : Path) (relative : Place) : Prop where
  spelled : file = pathOf (base ++ relative)
  proper : relative ≠ []
  named : ∀ name ∈ base ++ relative, IsName name

theorem lies_unique (base : Place) (file : Path) (left right : Place) (leftLies : Lies base file left)
    (rightLies : Lies base file right) : left = right := by
  have same := path_of_injective _ _ leftLies.named rightLies.named (leftLies.spelled.symm.trans rightLies.spelled)
  exact List.append_cancel_left same

def baseComponents (base : Place) : List Component :=
  .root :: base.map .name

def copyPath (root : Path) (base : List Component) (file : Path) : Option Path :=
  (below? base file.components).map fun relative => root.join (ofComponents relative)

section

variable {disk grown : Disk} {root : Path} {base : Place}

theorem lies_below {file : Path} {relative : Place} (lies : Lies base file relative) :
    below? (baseComponents base) file.components = some (relative.map .name) := by
  rw [below_iff, lies.spelled, path_of_components _ lies.named, List.map_append]
  rfl

theorem copy_path_spelled {file : Path} {relative : Place} (anchored : Anchored root) (lies : Lies base file relative) :
    ∃ copy, copyPath root (baseComponents base) file = some copy ∧ copy.segments = root.segments ++ relative := by
  refine ⟨_, by rw [copyPath, lies_below lies]; rfl, ?_⟩
  have spelled := of_names_segments relative lies.proper fun name inside =>
    lies.named name (List.mem_append_right _ inside)
  obtain ⟨front, last, shape, audible⟩ := anchored
  have unslashed := named_end_unslashed root ("" :: front) last shape audible
  have relativePath : (ofComponents (relative.map .name)).isAbsolute = false := by
    by_contra absolute
    obtain ⟨rest, _, slashed⟩ := (absolute_segments _).mp (by simpa using absolute)
    rw [spelled] at slashed
    refine name_nonempty "" (lies.named "" (List.mem_append_right _ ?_)) rfl
    rw [slashed]
    exact List.mem_cons_self ..
  rw [join_segments _ _ relativePath (text_nonempty root (anchored_absolute ⟨front, last, shape, audible⟩)),
    if_neg unslashed, spelled]

theorem copy_into_lays (linkFree : disk.LinkFree) (anchored : Anchored root)
    (located : disk.locate root = .ok (disk.landing root)) (file target : Path) (relative : Place)
    (lies : Lies base file relative) (copied : copyInto disk root (baseComponents base) file = .ok (grown, target)) :
    copyPath root (baseComponents base) file = some target ∧
      Grows (· = disk.landing root ++ relative)
        (fun place => ∃ front, front <+: relative.dropLast ∧ place = disk.landing root ++ front) disk grown ∧
      grown.kindAt (disk.landing root ++ relative) = some .file := by
  obtain ⟨copy, spelled, shape⟩ := copy_path_spelled anchored lies
  have named : ∀ name ∈ relative, IsName name := fun name inside => lies.named name (List.mem_append_right _ inside)
  have joined : root.join (ofComponents (relative.map .name)) = copy := by
    rw [copyPath, lies_below lies] at spelled
    exact Option.some.inj spelled
  obtain ⟨names, last, rfl⟩ : ∃ names last, relative = names ++ [last] :=
    ⟨_, _, (List.dropLast_append_getLast lies.proper).symm⟩
  obtain ⟨parent, up, parentShape⟩ := anchored_parent anchored copy names last shape named
  have lands : disk.landing copy = disk.landing root ++ (names ++ [last]) :=
    anchored_landing anchored copy (names ++ [last]) shape named
  rw [copyInto, lies_below lies] at copied
  dsimp only at copied
  rw [joined, up, Option.getD_some] at copied
  simp only [bind, Except.bind] at copied
  cases made : disk.createDirectories parent with
  | error fault => simp [made, Except.mapError] at copied
  | ok middle =>
      have first := create_directories_below linkFree anchored located parent names parentShape
        (fun name inside => named name (List.mem_append_left _ inside)) made
      simp only [made, Except.mapError] at copied
      cases written : middle.copyFile file copy with
      | error fault => simp [written] at copied
      | ok last =>
          obtain ⟨second, stands, _⟩ := copy_file_grows (grows_link_free first linkFree) file copy written
          rw [grows_landing first, lands] at second stands
          simp only [written, Except.ok.injEq, Prod.mk.injEq] at copied
          obtain ⟨rfl, rfl⟩ := copied
          rw [List.dropLast_concat]
          exact ⟨spelled, grows_trans (grows_mono first (fun _ => False.elim) fun _ => id)
            (grows_mono second (fun _ => id) fun _ => False.elim), stands⟩

def CopiedAt (root base : Place) (files : List Path) (place : Place) : Prop :=
  ∃ file ∈ files, ∃ relative, Lies base file relative ∧ place = root ++ relative

def AboveCopy (root base : Place) (files : List Path) (place : Place) : Prop :=
  ∃ file ∈ files, ∃ relative, Lies base file relative ∧ ∃ front, front <+: relative.dropLast ∧ place = root ++ front

theorem copy_all_lays (linkFree : disk.LinkFree) (anchored : Anchored root)
    (located : disk.locate root = .ok (disk.landing root)) (files : List Path)
    (lying : ∀ file ∈ files, ∃ relative, Lies base file relative)
    (copied : copyAll disk root (baseComponents base) files = .ok grown) :
    Grows (CopiedAt (disk.landing root) base files) (AboveCopy (disk.landing root) base files) disk grown ∧
      ∀ file ∈ files, ∀ relative, Lies base file relative →
        grown.kindAt (disk.landing root ++ relative) = some .file := by
  induction files generalizing disk with
  | nil =>
      cases copied
      exact ⟨grows_refl, nofun⟩
  | cons file rest step =>
      obtain ⟨relative, lies⟩ := lying file (List.mem_cons_self ..)
      rw [copyAll, List.foldlM_cons] at copied
      simp only [bind, Except.bind] at copied
      cases one : copyInto disk root (baseComponents base) file with
      | error fault => simp [one, Except.map] at copied
      | ok made =>
          obtain ⟨middle, target⟩ := made
          simp only [one, Except.map] at copied
          obtain ⟨_, first, stands⟩ := copy_into_lays linkFree anchored located file target relative lies one
          obtain ⟨second, others⟩ := step (grows_link_free first linkFree)
            (by rw [grows_landing first]; exact grows_locate first linkFree root _ located)
            (fun other member => lying other (List.mem_cons_of_mem _ member)) copied
          rw [grows_landing first] at second others
          refine ⟨grows_trans (grows_mono first ?_ ?_) (grows_mono second ?_ ?_), ?_⟩
          · rintro place rfl
            exact ⟨file, List.mem_cons_self .., relative, lies, rfl⟩
          · rintro place ⟨front, within, rfl⟩
            exact ⟨file, List.mem_cons_self .., relative, lies, front, within, rfl⟩
          · exact fun place ⟨other, member, further⟩ => ⟨other, List.mem_cons_of_mem _ member, further⟩
          · exact fun place ⟨other, member, further⟩ => ⟨other, List.mem_cons_of_mem _ member, further⟩
          · intro other member whole otherLies
            rcases List.mem_cons.mp member with rfl | later
            · rw [lies_unique base other whole relative otherLies lies]
              exact grows_keeps second _ .file stands
            · exact others other later whole otherLies

structure Laid (disk : Disk) (root : Path) (base : Place) (files : List Path) : Prop where
  linkFree : disk.LinkFree
  anchored : Anchored root
  located : disk.locate root = .ok (disk.landing root)
  file : ∀ place, disk.kindAt (disk.landing root ++ place) = some .file ↔ ∃ file ∈ files, Lies base file place
  directory : ∀ place, disk.kindAt (disk.landing root ++ place) = some .directory ↔
    ∃ file ∈ files, ∃ relative, Lies base file relative ∧ place <+: relative ∧ place ≠ relative

theorem fresh_empty {made : Disk} (fresh : Fresh disk made root) (place : Place) (below : place ≠ []) :
    made.kindAt (disk.landing root ++ place) = none := by
  have off : ¬disk.landing root ++ place = disk.landing root := fun same => below (List.append_right_eq_self.mp same)
  have absent := nothing_below disk _ place fresh.absent
  rcases fresh.grows.kind (disk.landing root ++ place) with same | ⟨_, ⟨_, allowed⟩ | ⟨_, allowed⟩⟩
  · rw [same, absent]
  · exact absurd allowed id
  · exact absurd allowed off

theorem copies_laid {made : Disk} (linkFree : disk.LinkFree) (fresh : Fresh disk made root) (files : List Path)
    (nonempty : files ≠ []) (lying : ∀ file ∈ files, ∃ relative, Lies base file relative)
    (copied : copyAll made root (baseComponents base) files = .ok grown) : Laid grown root base files := by
  have madeFree := grows_link_free fresh.grows linkFree
  have landed := grows_landing fresh.grows root
  obtain ⟨grows, stands⟩ := copy_all_lays madeFree fresh.anchored (landed ▸ fresh.located) files lying copied
  rw [landed] at grows stands
  have lands : grown.landing root = disk.landing root := by rw [grows_landing grows, landed]
  have located := grows_locate grows madeFree root _ fresh.located
  refine ⟨grows_link_free grows madeFree, fresh.anchored, lands ▸ located, ?_, ?_⟩
  · intro place
    rw [lands]
    constructor
    · intro isFile
      have below : place ≠ [] := by
        rintro rfl
        have kept := grows_keeps grows _ .directory fresh.stands
        rw [List.append_nil] at isFile
        exact absurd (kept.symm.trans isFile) (by decide)
      rcases grows.kind (disk.landing root ++ place) with same | ⟨_, ⟨_, copied⟩ | ⟨other, _⟩⟩
      · rw [same, fresh_empty fresh place below] at isFile
        cases isFile
      · obtain ⟨file, member, relative, lies, same⟩ := copied
        exact ⟨file, member, List.append_cancel_left same ▸ lies⟩
      · exact absurd (other.symm.trans isFile) (by decide)
    · rintro ⟨file, member, lies⟩
      exact stands file member place lies
  · intro place
    rw [lands]
    constructor
    · intro isDirectory
      by_cases top : place = []
      · obtain ⟨file, member⟩ := List.exists_mem_of_ne_nil files nonempty
        obtain ⟨relative, lies⟩ := lying file member
        exact ⟨file, member, relative, lies, top ▸ List.nil_prefix, top ▸ lies.proper.symm⟩
      · rcases grows.kind (disk.landing root ++ place) with same | ⟨_, ⟨other, _⟩ | ⟨_, above⟩⟩
        · rw [same, fresh_empty fresh place top] at isDirectory
          cases isDirectory
        · exact absurd (other.symm.trans isDirectory) (by decide)
        · obtain ⟨file, member, relative, lies, front, within, same⟩ := above
          obtain rfl := List.append_cancel_left same
          refine ⟨file, member, relative, lies, within.trans (List.dropLast_prefix relative), ?_⟩
          rintro rfl
          have shorter := within.length_le
          rw [List.length_dropLast] at shorter
          have positive := List.length_pos_of_ne_nil lies.proper
          omega
    · rintro ⟨file, member, relative, lies, ⟨below, rfl⟩, proper⟩
      have copy := stands file member _ lies
      rw [← List.append_assoc] at copy
      refine directory_above grown _ below ?_ (by rw [copy]; exact nofun)
      rintro rfl
      exact proper (List.append_nil place).symm

end

-- A file of the disk, under its own path.
def Placed (disk : Disk) (file : Path) : Prop :=
  ∃ place, file = pathOf place ∧ (∀ name ∈ place, IsName name) ∧ disk.kindAt place = some .file

def Proper (file : Path) : Prop :=
  ∃ above name, file = pathOf (above ++ [name]) ∧ ∀ other ∈ above ++ [name], IsName other

theorem placed_proper (disk : Disk) (file : Path) (placed : Placed disk file) : Proper file := by
  obtain ⟨place, rfl, named, isFile⟩ := placed
  cases place using List.reverseRecOn with
  | nil => exact absurd isFile (by simp [kind_at_top])
  | append_singleton above name => exact ⟨above, name, rfl, named⟩

theorem component_name_injective : Function.Injective Component.name :=
  fun _ _ same => Component.name.inj same

theorem base_above (entry directory : Path) (files : List Path) (up : entry.parent? = some directory)
    (nonempty : baseOf directory files ≠ []) (proper : ∀ file ∈ entry :: files, Proper file) :
    ∃ base, baseOf directory files = baseComponents base ∧
      ∀ file ∈ entry :: files, ∃ relative, Lies base file relative := by
  obtain ⟨whole, others⟩ := base_within directory files
  have within : ∀ file ∈ entry :: files, ∀ parent, file.parent? = some parent →
      baseOf directory files <+: parent.components := by
    intro file member parent found
    rcases List.mem_cons.mp member with rfl | later
    · rw [up] at found
      exact Option.some.inj found ▸ whole
    · exact others file later parent found
  generalize baseOf directory files = common at nonempty within
  obtain ⟨above, name, spelled, named⟩ := proper entry (List.mem_cons_self ..)
  have entryUp : entry.parent? = some (pathOf above) := spelled ▸ path_of_parent above name named
  have shape : ∃ base, common = baseComponents base := by
    have inside := within entry (List.mem_cons_self ..) _ entryUp
    rw [path_of_components above fun name member => named name (List.mem_append_left _ member)] at inside
    cases common with
    | nil => exact absurd rfl nonempty
    | cons first rest =>
        obtain ⟨rfl, rest⟩ := List.cons_prefix_cons.mp inside
        obtain ⟨base, _, rfl⟩ := List.prefix_map_iff.mp rest
        exact ⟨base, rfl⟩
  obtain ⟨base, rfl⟩ := shape
  refine ⟨base, rfl, fun file member => ?_⟩
  obtain ⟨above, name, spelled, fileNamed⟩ := proper file member
  have fileUp : file.parent? = some (pathOf above) := spelled ▸ path_of_parent above name fileNamed
  have inside := within file member _ fileUp
  rw [path_of_components above fun other member => fileNamed other (List.mem_append_left _ member)] at inside
  obtain ⟨_, rest⟩ := List.cons_prefix_cons.mp inside
  obtain ⟨between, rfl⟩ := (List.prefix_map_iff_of_injective component_name_injective).mp rest
  rw [List.append_assoc] at spelled fileNamed
  exact ⟨between ++ [name], spelled, by simp, fileNamed⟩

theorem fill_lays (source disk made grown : Disk) (linkFree : disk.LinkFree) (root spelled entry : Path)
    (files : List Path) (workspace : Workspace) (fresh : Fresh disk made root)
    (present : ∀ file, made.canonicalize spelled = .ok file → file = entry)
    (placed : ∀ file ∈ entry :: files, Placed source file)
    (filled : fill made root spelled files = .ok (grown, workspace)) :
    workspace.root = root ∧ ∃ directory base, entry.parent? = some directory ∧
      baseOf directory files = baseComponents base ∧ (∀ file ∈ entry :: files, ∃ relative, Lies base file relative) ∧
      Laid grown root base (entry :: files) ∧ copyPath root (baseComponents base) entry = some workspace.entry := by
  rw [fill] at filled
  simp only [bind, Except.bind] at filled
  cases found : made.canonicalize spelled with
  | error fault => simp [found, Except.mapError] at filled
  | ok file =>
      obtain rfl := present file found
      simp only [found, Except.mapError] at filled
      cases up : file.parent? with
      | none => simp [up] at filled
      | some directory =>
          simp only [up] at filled
          by_cases nonempty : baseOf directory files = []
          · simp [nonempty] at filled
          · obtain ⟨base, common, lying⟩ := base_above file directory files up nonempty fun other member =>
              placed_proper source other (placed other member)
            have rooted : (baseComponents base).isEmpty = false := rfl
            simp only [common, rooted, Bool.false_eq_true, if_false] at filled
            cases first : copyInto made root (baseComponents base) file with
            | error fault => simp [first] at filled
            | ok copied =>
                obtain ⟨middle, target⟩ := copied
                simp only [first] at filled
                cases others : copyAll middle root (baseComponents base) files with
                | error fault => simp [others] at filled
                | ok last =>
                    simp only [others, Except.ok.injEq, Prod.mk.injEq] at filled
                    obtain ⟨rfl, rfl⟩ := filled
                    have copied : copyAll made root (baseComponents base) (file :: files) = .ok last := by
                      rw [copyAll, List.foldlM_cons, first]
                      exact others
                    obtain ⟨relative, lies⟩ := lying file (List.mem_cons_self ..)
                    have located : made.locate root = .ok (made.landing root) := by
                      rw [fresh.located, grows_landing fresh.grows]
                    have spelledTarget := (copy_into_lays (grows_link_free fresh.grows linkFree) fresh.anchored located
                      file target relative lies first).1
                    exact ⟨rfl, directory, base, rfl, common, lying,
                      copies_laid linkFree fresh (file :: files) (by simp) lying copied, spelledTarget⟩

theorem stage_lays {naming : Naming} (lawful : naming.Lawful) (disk grown : Disk) (linkFree : disk.LinkFree)
    (stagingRoot spelled entry : Path) (files : List Path) (workspace : Workspace)
    (present : disk.canonicalize spelled = .ok entry) (placed : ∀ file ∈ entry :: files, Placed disk file)
    (staged : stage naming disk stagingRoot spelled files = (grown, .ok workspace)) :
    ∃ directory base, entry.parent? = some directory ∧ baseOf directory files = baseComponents base ∧
      (∀ file ∈ entry :: files, ∃ relative, Lies base file relative) ∧
      Laid grown workspace.root base (entry :: files) ∧
      copyPath workspace.root (baseComponents base) entry = some workspace.entry := by
  rw [stage] at staged
  cases prepared : disk.createDirectories stagingRoot with
  | error fault => simp [prepared] at staged
  | ok ready =>
      have first := create_directories_grows linkFree stagingRoot prepared
      have readyFree := grows_link_free first linkFree
      cases temporary : ready.createTemporary naming stagingRoot "casper-" with
      | error fault => simp [prepared, temporary] at staged
      | ok new =>
          obtain ⟨made, root⟩ := new
          have fresh := create_temporary_fresh lawful ready made readyFree stagingRoot root "casper-" (by decide) (by decide)
            temporary
          have lands := (grows_landing fresh.grows spelled).trans (grows_landing first spelled)
          simp only [prepared, temporary] at staged
          cases filled : fill made root spelled files with
          | error fault => simp [filled] at staged
          | ok full =>
              obtain ⟨last, space⟩ := full
              simp only [filled, Prod.mk.injEq, Except.ok.injEq] at staged
              obtain ⟨rfl, rfl⟩ := staged
              have same : ∀ file, made.canonicalize spelled = .ok file → file = entry := by
                intro file found
                have canonical := ((canonicalize_iff (grows_link_free fresh.grows readyFree) spelled file).mp found).1
                rw [canonical, lands, ((canonicalize_iff linkFree spelled entry).mp present).1]
              obtain ⟨rfl, laid⟩ := fill_lays disk ready made last readyFree root spelled entry files space fresh same
                placed filled
              exact laid

end ScriptSuite.Staging
