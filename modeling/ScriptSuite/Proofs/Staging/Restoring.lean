import ScriptSuite.Proofs.Dependency.Resolve
import ScriptSuite.Proofs.FileSystem.Filling
import ScriptSuite.Proofs.Staging.Layout

set_option autoImplicit false

namespace ScriptSuite.Staging

open Config Dependency FileSystem FileSystem.Disk ScriptSuite.Path

section

variable {disk made grown : Disk} {root : Path} {directory : Place} {name : String} {base : Place}

theorem copy_into_furnished (site : disk.Site root directory name)
    (furnished : disk.Furnished (directory ++ [name]) made) (file target : Path) (relative : Place)
    (lies : Lies base file relative) (copied : copyInto made root (baseComponents base) file = .ok (grown, target)) :
    disk.Furnished (directory ++ [name]) grown := by
  obtain ⟨copy, spelled, shape⟩ := copy_path_spelled site.anchored lies
  have named : ∀ other ∈ relative, IsName other := fun other inside => lies.named other (List.mem_append_right _ inside)
  have joined : root.join (ofComponents (relative.map .name)) = copy := by
    rw [copyPath, lies_below lies] at spelled
    exact Option.some.inj spelled
  obtain ⟨names, last, rfl⟩ : ∃ names last, relative = names ++ [last] :=
    ⟨_, _, (List.dropLast_append_getLast lies.proper).symm⟩
  obtain ⟨parent, up, parentShape⟩ := anchored_parent site.anchored copy names last shape named
  rw [copyInto, lies_below lies] at copied
  dsimp only at copied
  rw [joined, up, Option.getD_some] at copied
  simp only [bind, Except.bind] at copied
  cases created : made.createDirectories parent with
  | error fault => simp [created, Except.mapError] at copied
  | ok middle =>
      have first := create_directories_furnished site furnished parent names parentShape
        (fun other inside => named other (List.mem_append_left _ inside)) created
      simp only [created, Except.mapError] at copied
      cases written : middle.copyFile file copy with
      | error fault => simp [written] at copied
      | ok last =>
          simp only [written, Except.ok.injEq, Prod.mk.injEq] at copied
          obtain ⟨rfl, _⟩ := copied
          exact copy_file_furnished site first file copy _ (by simp) shape named written

theorem copy_all_furnished (site : disk.Site root directory name)
    (furnished : disk.Furnished (directory ++ [name]) made) (files : List Path)
    (lying : ∀ file ∈ files, ∃ relative, Lies base file relative)
    (copied : copyAll made root (baseComponents base) files = .ok grown) :
    disk.Furnished (directory ++ [name]) grown := by
  induction files generalizing made with
  | nil =>
      cases copied
      exact furnished
  | cons file rest step =>
      obtain ⟨relative, lies⟩ := lying file (List.mem_cons_self ..)
      rw [copyAll, List.foldlM_cons] at copied
      simp only [bind, Except.bind] at copied
      cases one : copyInto made root (baseComponents base) file with
      | error fault => simp [one, Except.map] at copied
      | ok copy =>
          obtain ⟨middle, target⟩ := copy
          simp only [one, Except.map] at copied
          exact step (copy_into_furnished site furnished file target relative lies one)
            (fun other member => lying other (List.mem_cons_of_mem _ member)) copied

theorem canonical_proper (path file above : Path) (named : ∀ other ∈ disk.workingDirectory, IsName other)
    (canonical : disk.canonicalize path = .ok file) (up : file.parent? = some above) : Proper file := by
  cases located : disk.locate path with
  | error fault =>
      rw [canonicalize, located] at canonical
      cases canonical
  | ok place =>
      rw [canonicalize, located] at canonical
      cases canonical
      have names := locate_named path named located
      cases place using List.reverseRecOn with
      | nil =>
          have top : (pathOf []).parent? = none := by decide
          rw [top] at up
          cases up
      | append_singleton front last => exact ⟨front, last, rfl, names⟩

theorem fill_furnished (site : disk.Site root directory name) (furnished : disk.Furnished (directory ++ [name]) made)
    (named : ∀ other ∈ disk.workingDirectory, IsName other) (entry : Path) (files : List Path) (workspace : Workspace)
    (proper : ∀ file ∈ files, Proper file) (filled : fill made root entry files = .ok (grown, workspace)) :
    workspace.root = root ∧ disk.Furnished (directory ++ [name]) grown := by
  have stays : made.workingDirectory = disk.workingDirectory := by
    obtain ⟨inner, rfl, _⟩ := furnished
    rfl
  rw [fill] at filled
  simp only [bind, Except.bind] at filled
  cases found : made.canonicalize entry with
  | error fault => simp [found, Except.mapError] at filled
  | ok file =>
      simp only [found, Except.mapError] at filled
      cases up : file.parent? with
      | none => simp [up] at filled
      | some above =>
          simp only [up] at filled
          by_cases nonempty : baseOf above files = []
          · simp [nonempty] at filled
          · have entryProper := canonical_proper entry file above (stays ▸ named) found up
            obtain ⟨base, common, lying⟩ := base_above file above files up nonempty fun other member => by
              rcases List.mem_cons.mp member with rfl | listed
              · exact entryProper
              · exact proper other listed
            have rooted : (baseComponents base).isEmpty = false := rfl
            simp only [common, rooted, Bool.false_eq_true, if_false] at filled
            cases first : copyInto made root (baseComponents base) file with
            | error fault => simp [first] at filled
            | ok copied =>
                obtain ⟨middle, target⟩ := copied
                simp only [first] at filled
                cases others : copyAll middle root (baseComponents base) files with
                | error fault => simp [others] at filled
                | ok last =>
                    simp only [others, Except.ok.injEq, Prod.mk.injEq] at filled
                    obtain ⟨rfl, rfl⟩ := filled
                    obtain ⟨relative, lies⟩ := lying file (List.mem_cons_self ..)
                    have one := copy_into_furnished site furnished file target relative lies first
                    exact ⟨rfl, copy_all_furnished site one files
                      (fun other member => lying other (List.mem_cons_of_mem _ member)) others⟩

end

structure Seated (ready filled : Disk) (stagingRoot : Path) (workspace : Workspace) (directory : Place) (name : String) :
    Prop where
  named : IsName name
  located : ready.locate (ready.absolute stagingRoot) = .ok directory
  spelled : workspace.root = (ready.absolute stagingRoot).join ⟨name⟩
  site : ready.Site workspace.root directory name
  furnished : ready.Furnished (directory ++ [name]) filled

section

variable {naming : Naming} (lawful : naming.Lawful)

include lawful

-- Staging fails and leaves no more than the staging root, or makes a workspace in it.
theorem stage_cases (disk left : Disk) (stagingRoot entry : Path) (files : List Path)
    (result : Except StagingError Workspace) (named : ∀ other ∈ disk.workingDirectory, IsName other)
    (proper : ∀ file ∈ files, Proper file) (staged : stage naming disk stagingRoot entry files = (left, result)) :
    (∃ error, result = .error error ∧ left = disk.afterDirectories stagingRoot) ∨
      ∃ workspace directory name, result = .ok workspace ∧
        disk.createDirectories stagingRoot = .ok (disk.afterDirectories stagingRoot) ∧
        Seated (disk.afterDirectories stagingRoot) left stagingRoot workspace directory name := by
  rw [stage] at staged
  cases prepared : disk.createDirectories stagingRoot with
  | error fault =>
      simp only [prepared, Prod.mk.injEq] at staged
      exact .inl ⟨_, staged.2.symm, staged.1.symm⟩
  | ok ready =>
      obtain rfl := create_directories_after stagingRoot prepared
      simp only [prepared] at staged
      cases temporary : (disk.afterDirectories stagingRoot).createTemporary naming stagingRoot "casper-" with
      | error fault =>
          simp only [temporary, Prod.mk.injEq] at staged
          exact .inl ⟨_, staged.2.symm, staged.1.symm⟩
      | ok new =>
          obtain ⟨made, root⟩ := new
          obtain ⟨directory, name, isName, located, rfl, site, fresh⟩ :=
            create_temporary_site lawful _ made stagingRoot root "casper-" (by decide) (by decide) temporary
          have furnished : Furnished _ (directory ++ [name]) made := fresh ▸ furnished_fresh _ _
          simp only [temporary] at staged
          cases filled : fill made ((disk.afterDirectories stagingRoot).absolute stagingRoot |>.join ⟨name⟩) entry files with
          | error fault =>
              simp only [filled, Prod.mk.injEq] at staged
              obtain ⟨rfl, rfl⟩ := staged
              exact .inl ⟨fault, rfl, furnished_removed site furnished⟩
          | ok full =>
              obtain ⟨last, workspace⟩ := full
              simp only [filled, Prod.mk.injEq] at staged
              obtain ⟨rfl, rfl⟩ := staged
              have stays := (after_directories_stays disk stagingRoot).symm ▸ named
              obtain ⟨sameRoot, holds⟩ := fill_furnished site furnished stays entry files workspace proper filled
              exact .inr ⟨workspace, directory, name, rfl, rfl, isName, located, sameRoot, sameRoot ▸ site, holds⟩

theorem stage_restores (disk left : Disk) (stagingRoot entry : Path) (files : List Path)
    (result : Except StagingError Workspace) (named : ∀ other ∈ disk.workingDirectory, IsName other)
    (proper : ∀ file ∈ files, Proper file) (staged : stage naming disk stagingRoot entry files = (left, result)) :
    (∀ error, result = .error error → left = disk.afterDirectories stagingRoot) ∧
      ∀ workspace, result = .ok workspace → dispose left workspace = disk.afterDirectories stagingRoot := by
  rcases stage_cases lawful disk left stagingRoot entry files result named proper staged with
    ⟨error, rfl, same⟩ | ⟨workspace, directory, name, rfl, -, seated⟩
  · exact ⟨fun _ _ => same, fun _ made => (by cases made)⟩
  · refine ⟨fun _ failed => (by cases failed), fun other same => ?_⟩
    obtain rfl := Except.ok.inj same
    exact furnished_removed seated.site seated.furnished

end

theorem resolved_present (disk : Disk) (settings : ResolverSettings) (spelled : Path) (files : List RequiredFile)
    (resolved : resolve disk settings spelled = .ok files) : ∃ canonical, disk.canonicalize spelled = .ok canonical := by
  rw [resolve] at resolved
  cases found : disk.canonicalize spelled with
  | error fault => simp [found, bind, Except.bind, Except.mapError] at resolved
  | ok canonical => exact ⟨canonical, rfl⟩

section

variable {disk : Disk} {settings : ResolverSettings} {entry : Path} {files : List RequiredFile}
  (named : ∀ other ∈ disk.workingDirectory, IsName other)

include named

theorem edge_placed (file dependency : Path) (edge : Edge disk settings entry file dependency) : Placed disk dependency := by
  obtain ⟨program, _, text, _, found, probed, rfl⟩ := edge
  obtain ⟨extension, _, hit⟩ := List.exists_of_findSome?_eq_some probed
  dsimp only at hit
  split at hit
  · rename_i isFile
    obtain ⟨place, content, mode, located, held⟩ := is_file_located disk _ isFile
    split at hit
    · rename_i path spelled
      cases hit
      rw [canonicalize, located] at spelled
      cases spelled
      exact ⟨place, rfl, locate_named _ named located, (kind_at_file disk place).mpr ⟨content, mode, held⟩⟩
    · cases hit
  · cases hit

theorem entry_placed (spelled : Path) (present : disk.canonicalize spelled = .ok entry) (text : String)
    (readable : disk.readText entry = .ok text) : Placed disk entry := by
  cases located : disk.locate spelled with
  | error fault =>
      rw [canonicalize, located] at present
      cases present
  | ok place =>
      rw [canonicalize, located] at present
      cases present
      have names := locate_named spelled named located
      obtain ⟨node, held, plain⟩ := locate_plain spelled located
      have own : disk.locate (pathOf place) = .ok place := locate_place place node names held (by
        cases node with
        | link target => exact absurd rfl (plain target)
        | _ => simp [Node.kind])
      refine ⟨place, rfl, names, ?_⟩
      rw [readText, readBytes, Disk.node, own] at readable
      cases node with
      | file content mode => exact (kind_at_file disk place).mpr ⟨content, mode, held⟩
      | directory entries => simp [held, bind, Except.bind] at readable
      | link target => simp [held, bind, Except.bind] at readable

theorem resolved_placed (spelled : Path) (present : disk.canonicalize spelled = .ok entry)
    (resolved : resolve disk settings spelled = .ok files) : ∀ file ∈ entry :: paths files, Placed disk file := by
  obtain ⟨text, readable, reached⟩ := resolved_reaches disk settings spelled entry files present resolved
  intro file listed
  rcases List.mem_cons.mp listed with rfl | dependency
  · exact entry_placed named spelled present text readable
  · obtain ⟨user, _, edge⟩ := Relation.TransGen.tail'_iff.mp ((reached file).mp dependency)
    exact edge_placed named user file edge

theorem resolved_proper (spelled : Path) (resolved : resolve disk settings spelled = .ok files) :
    ∀ file ∈ paths files, Proper file := by
  obtain ⟨canonical, present⟩ := resolved_present disk settings spelled files resolved
  exact fun file listed => placed_proper disk file
    (resolved_placed named spelled present resolved file (List.mem_cons_of_mem _ listed))

end

end ScriptSuite.Staging
