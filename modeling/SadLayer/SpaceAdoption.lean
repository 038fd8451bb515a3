import SadLayer.ProcessModules
import SadLayer.Transcoding

/-! A process takes over a module space once and for good, with a checked main module and
path, and its image base stays that of the main module. -/
namespace SadLayer.ProcessModules
open SadLayer.Library SadLayer.Pe SadLayer.Loader SadLayer.Module SadLayer.Space Contexts

/-! ### What is adopted -/

/-- Every PE module of the space is mapped for execution, whole, and sealed. -/
def Finalized (space : ModuleSpace) : Prop :=
  ∀ module < space.registry.count, ∀ image mapped,
    (space.registry.modules module).contents = .pe image mapped →
    (space.memory.mappings mapped).protectionsFinalized = true ∧
    (space.memory.mappings mapped).storage = .virtual ∧
    (space.memory.mappings mapped).address ≠ 0 ∧
    (space.memory.mappings mapped).loadBase = (space.memory.mappings mapped).address ∧
    (space.memory.mappings mapped).size = (space.memory.images image).imageSize

/-- A path as a process keeps it: valid UTF-16 of no unit zero. -/
structure ImagePath (units : List UInt16) : Prop where
  nonempty : units ≠ []
  short : units.length ≤ imagePathMaxUnits
  noNul : 0 ∉ units
  paired : SurrogatesPaired units

/-- What an adoption was given, that it was accepted. -/
structure Adoptable (space : ModuleSpace) (main : Nat) (path : List UInt16) : Prop where
  registered : main < space.registry.count
  finalized : Finalized space
  path : ImagePath path
  base : ∃ mapped, mappedOf space main = some mapped ∧ mapped.loadBase ≠ 0 ∧
    mapped.loadBase ≤ uint64Max

theorem finalized_iff {space : ModuleSpace} :
    moduleSpaceIsFinalized space = true ↔ Finalized space := by
  unfold moduleSpaceIsFinalized Finalized
  simp only [List.all_eq_true, List.mem_range]
  refine forall₂_congr fun module inside => ?_
  unfold moduleIsFinalized
  cases contents : (space.registry.modules module).contents with
  | native exports => simp
  | pe image mapped =>
    simp only [Bool.and_eq_true, bne_iff_ne, beq_iff_eq, Contents.pe.injEq]
    constructor
    · rintro ⟨⟨⟨⟨address, storage⟩, sealed'⟩, size⟩, base⟩ _ _ ⟨rfl, rfl⟩
      exact ⟨sealed', storage, address, base, size⟩
    · intro known
      obtain ⟨sealed', storage, address, base, size⟩ := known image mapped ⟨rfl, rfl⟩
      exact ⟨⟨⟨⟨address, storage⟩, sealed'⟩, size⟩, base⟩

theorem image_path_iff {units : List UInt16} :
    validateImagePath (some units) = .ok ↔ ImagePath units := by
  unfold validateImagePath
  dsimp only
  constructor
  · intro valid
    split at valid
    · cases valid
    rename_i long
    split at valid
    · cases valid
    rename_i noNul
    simp only [not_or] at long
    have fits : 2 * units.length ≤ Unicode.ptrdiffMax := by
      have bounded : imagePathMaxUnits * 2 ≤ Unicode.ptrdiffMax := by decide
      omega
    refine ⟨fun empty => long.1 (by rw [empty]; rfl), by omega, fun nul => noNul ?_,
      (Unicode.utf16_accepted_iff units fits).mp valid⟩
    exact List.any_eq_true.mpr ⟨0, nul, rfl⟩
  · rintro ⟨nonempty, short, noNul, paired⟩
    have positive := List.length_pos_iff.mpr nonempty
    have fits : 2 * units.length ≤ Unicode.ptrdiffMax := by
      have bounded : imagePathMaxUnits * 2 ≤ Unicode.ptrdiffMax := by decide
      omega
    rw [if_neg (by omega), if_neg]
    · exact (Unicode.utf16_accepted_iff units fits).mpr paired
    · rw [List.any_eq_true]
      rintro ⟨unit, inside, zero⟩
      exact noNul (eq_of_beq zero ▸ inside)

/-! ### What a call does -/

/-- Everything a call can do. -/
inductive Effect (p : Win32Process) : Call → Answer → Win32Process → Prop where
  | refused (failed : status ≠ .ok) : Effect p call (.returned status) p
  | notAdopted (failed : status ≠ .ok) :
      Effect p (.adoptModuleSpace spaceIo mainModule imagePath allocated)
        (.adopted status spaceIo) p
  | based (agrees : ∀ space main mapped, p.moduleSpace = some space → p.mainModule = some main →
        mappedOf space main = some mapped → imageBase.toNat = mapped.loadBase) :
      Effect p (.setImageBase imageBase) (.returned .ok) { p with imageBase := imageBase }
  | retained : Effect p .retain (.returned .ok)
      { p with activeReferences := p.activeReferences + 1 }
  | released (held : p.activeReferences ≠ 0) : Effect p .release .released
      { p with activeReferences := p.activeReferences - 1 }
  | aborted (unheld : p.activeReferences = 0) : Effect p .release (.faulted .abort) p
  | directory : Effect p (.setFilesystemDirectory hostDirectory fd) (.returned .ok)
      { p with filesystemDirectoryFd := fd }
  | adopted (unset : p.moduleSpace = none ∧ p.mainModule = none ∧ p.mainImagePath = none)
      (unheld : p.activeReferences = 0) (adoptable : Adoptable space main path)
      (base : (mappedOf space main).map MappedImage.loadBase = some imageBase) :
      Effect p (.adoptModuleSpace (some (some space)) (some (.entry main)) (some path) true)
        (.adopted .ok (some none)) { p with
          moduleSpace := some space
          mainModule := some main
          mainImagePath := some (path ++ [0])
          mainImagePathLength := path.length
          imageBase := .ofNat imageBase }
  /-- The main module has no mapping. -/
  | dangling (adopted : p.moduleSpace = some space) (named : p.mainModule = some main)
      (unmapped : mappedOf space main = none) :
      Effect p (.setImageBase imageBase) (.faulted .dangling) p

variable {p : Win32Process}

/-- The image base is stored where no main module has another one. -/
theorem set_image_base_cases (p : Win32Process) (imageBase : UInt64) :
    ((∀ space main mapped, p.moduleSpace = some space → p.mainModule = some main →
        mappedOf space main = some mapped → imageBase.toNat = mapped.loadBase) ∧
      setImageBase p imageBase = .ok (.ok, { p with imageBase := imageBase })) ∨
    setImageBase p imageBase = .ok (.invalidState, p) ∨
    (∃ space main, p.moduleSpace = some space ∧ p.mainModule = some main ∧
      mappedOf space main = none) ∧ setImageBase p imageBase = .error .dangling := by
  unfold setImageBase
  cases p.moduleSpace with
  | none => exact .inl ⟨nofun, rfl⟩
  | some space =>
    cases p.mainModule with
    | none => exact .inr (.inl rfl)
    | some main =>
      cases known : mappedOf space main with
      | none =>
        simp only [known]
        exact .inr (.inr ⟨⟨space, main, rfl, rfl, known⟩, trivial⟩)
      | some mapped =>
        simp only [known]
        by_cases agrees : imageBase.toNat = mapped.loadBase
        · refine .inl ⟨?_, if_neg (not_not.mpr agrees)⟩
          rintro _ _ other ⟨⟩ ⟨⟩ same
          rw [known, Option.some_inj] at same
          exact same ▸ agrees
        · exact .inr (.inl (if_pos agrees))

theorem find_exact_module_some {space : ModuleSpace} {main : Nat} {candidate : ModulePointer}
    (found : findExactModule space candidate = some main) :
    candidate = .entry main ∧ main < space.registry.count := by
  unfold findExactModule at found
  cases candidate with
  | foreign module => cases found
  | entry index =>
    dsimp only at found
    split at found
    · cases found
      exact ⟨rfl, ‹_›⟩
    · cases found

theorem adopt_effect {spaceIo : Option (Option ModuleSpace)} {mainModule : Option ModulePointer}
    {imagePath : Option (List UInt16)} {allocated : Bool} :
    Effect p (.adoptModuleSpace spaceIo mainModule imagePath allocated)
      (step p (.adoptModuleSpace spaceIo mainModule imagePath allocated)).2
      (step p (.adoptModuleSpace spaceIo mainModule imagePath allocated)).1 := by
  unfold step adoptModuleSpace
  dsimp only
  split
  · rename_i space candidate
    split
    · exact .notAdopted nofun
    rename_i free
    simp only [not_or, Bool.not_eq_true, Option.isSome_eq_false_iff, Option.isNone_iff_eq_none,
      ne_eq, not_not] at free
    obtain ⟨unadopted, unnamed, pathless, -, unheld⟩ := free
    cases found : findExactModule space candidate with
    | none => exact .notAdopted nofun
    | some main =>
      obtain ⟨rfl, registered⟩ := find_exact_module_some found
      dsimp only
      cases known : mappedOf space main with
      | none => exact .notAdopted nofun
      | some mapped =>
        dsimp only
        split
        · exact .notAdopted nofun
        rename_i finalized
        split
        · exact .notAdopted ‹_›
        rename_i valid
        split
        · exact .notAdopted nofun
        rename_i based
        split
        · exact .notAdopted nofun
        rename_i stored
        cases imagePath with
        | none => exact absurd (show validateImagePath none ≠ .ok from nofun) valid
        | some path =>
          rw [Bool.not_eq_false] at finalized stored
          subst stored
          have adoptable : Adoptable space main path :=
            ⟨registered, finalized_iff.mp finalized, image_path_iff.mp (not_not.mp valid),
              mapped, known, by omega, by omega⟩
          exact .adopted ⟨unadopted, unnamed, pathless⟩ unheld adoptable (by rw [known]; rfl)
  · exact .notAdopted nofun

theorem step_effect (p : Win32Process) (call : Call) :
    Effect p call (step p call).2 (step p call).1 := by
  cases call with
  | setImageBase imageBase =>
    unfold step
    dsimp only
    rcases set_image_base_cases p imageBase with
      ⟨agrees, stored⟩ | refused | ⟨⟨space, main, adopted, named, unmapped⟩, dangling⟩
    · rw [stored]
      exact .based agrees
    · rw [refused]
      exact .refused nofun
    · rw [dangling]
      exact .dangling adopted named unmapped
  | adoptModuleSpace spaceIo mainModule imagePath allocated => exact adopt_effect
  | retain =>
    by_cases saturated : p.activeReferences = uint32Max
    · simp only [step, retain, processRetain, if_pos saturated]
      exact .refused nofun
    · simp only [step, retain, processRetain, if_neg saturated]
      exact .retained
  | release =>
    by_cases unheld : p.activeReferences = 0
    · simp only [step, release, processRelease, if_pos unheld, Except.map]
      exact .aborted unheld
    · simp only [step, release, processRelease, if_neg unheld, Except.map]
      exact .released unheld
  | setFilesystemDirectory hostDirectory fd =>
    unfold step setFilesystemDirectory
    dsimp only
    split
    · exact .refused nofun
    split
    · exact .refused nofun
    split
    · exact .refused nofun
    · exact .directory

/-! ### Runs -/

def isAdoption : Call × Answer → Bool
  | (_, .adopted .ok _) => true
  | _ => false

def isRetain : Call × Answer → Bool
  | (.retain, .returned .ok) => true
  | _ => false

def isRelease : Call × Answer → Bool
  | (.release, .released) => true
  | _ => false

/-- The references that are outstanding after these calls. -/
structure Referenced (trace : List (Call × Answer)) (references : Nat) : Prop where
  balance : references + trace.countP isRelease = trace.countP isRetain

/-- What a process keeps of the space it has adopted. -/
structure Holds (p : Win32Process) (owned : ModuleSpace) (module : Nat) (units : List UInt16) :
    Prop where
  space : p.moduleSpace = some owned
  main : p.mainModule = some module
  path : p.mainImagePath = some (units ++ [0])
  length : p.mainImagePathLength = units.length

/-- The three fields are unset, or they are those of the one adoption there was. -/
inductive Configured (trace : List (Call × Answer)) (p : Win32Process) : Prop where
  | unset (space : p.moduleSpace = none) (main : p.mainModule = none)
      (path : p.mainImagePath = none) (never : trace.countP isAdoption = 0)
  | set (holds : Holds p space main path) (adoptable : Adoptable space main path)
      (base : ∃ mapped, mappedOf space main = some mapped ∧
        p.imageBase.toNat = mapped.loadBase)
      (once : trace.countP isAdoption = 1)
      (given : (.adoptModuleSpace (some (some space)) (some (.entry main)) (some path) true,
        .adopted .ok (some none)) ∈ trace)

structure Invariant (trace : List (Call × Answer)) (p : Win32Process) : Prop where
  configured : Configured trace p
  referenced : Referenced trace p.activeReferences
  /-- The main module is always there to be read. -/
  mapped : ∀ event ∈ trace, ∀ fault, event.2 = .faulted fault → fault = .abort

variable {trace : List (Call × Answer)} {event : Call × Answer}

theorem Referenced.kept {references : Nat} (referenced : Referenced trace references)
    (retain : isRetain event = false) (release : isRelease event = false) :
    Referenced (trace ++ [event]) references := by
  constructor
  simpa [List.countP_append, List.countP_singleton, retain, release] using referenced.balance

theorem Configured.kept (configured : Configured trace p) {q : Win32Process}
    (silent : isAdoption event = false) (space : q.moduleSpace = p.moduleSpace)
    (main : q.mainModule = p.mainModule) (path : q.mainImagePath = p.mainImagePath)
    (length : q.mainImagePathLength = p.mainImagePathLength)
    (base : ∀ space main mapped, p.moduleSpace = some space → p.mainModule = some main →
      mappedOf space main = some mapped → p.imageBase.toNat = mapped.loadBase →
      q.imageBase.toNat = mapped.loadBase) :
    Configured (trace ++ [event]) q := by
  have counted : (trace ++ [event]).countP isAdoption = trace.countP isAdoption := by
    simp [List.countP_append, silent]
  cases configured with
  | unset noSpace noMain noPath never =>
    exact .unset (space.trans noSpace) (main.trans noMain) (path.trans noPath)
      (counted.trans never)
  | set holds adoptable based once given =>
    obtain ⟨mapped, known, same⟩ := based
    refine .set ⟨space.trans holds.space, main.trans holds.main, path.trans holds.path,
      length.trans holds.length⟩ adoptable ⟨mapped, known, ?_⟩ (counted.trans once)
      (List.mem_append_left _ given)
    exact base _ _ mapped holds.space holds.main known same

/-- An adoption finds no reference and nothing adopted. -/
theorem invariant_step (invariant : Invariant trace p) (call : Call) :
    Invariant (trace ++ [(call, (step p call).2)]) (step p call).1 := by
  have effect := step_effect p call
  generalize (step p call).1 = after, (step p call).2 = answer at effect
  have mapped (fine : ∀ fault, answer = .faulted fault → fault = .abort) :
      ∀ event ∈ trace ++ [(call, answer)], ∀ fault, event.2 = .faulted fault → fault = .abort := by
    intro event member
    rcases List.mem_append.mp member with before | new
    · exact invariant.mapped event before
    · rw [List.mem_singleton.mp new]
      exact fine
  have configured := invariant.configured
  have referenced := invariant.referenced
  cases effect with
  | @refused status _ failed =>
    have silent : isRetain (call, .returned status) = false := by
      unfold isRetain
      split
      · rename_i same
        cases same
        exact absurd rfl failed
      · rfl
    exact ⟨configured.kept rfl rfl rfl rfl rfl fun _ _ _ _ _ _ same => same,
      referenced.kept silent (by cases call <;> rfl), mapped nofun⟩
  | @notAdopted status _ _ _ _ failed =>
    have silent (call : Call) (spaceIo : Option (Option ModuleSpace)) :
        isAdoption (call, .adopted status spaceIo) = false := by
      cases status with
      | ok => exact absurd rfl failed
      | _ => rfl
    exact ⟨configured.kept (silent _ _) rfl rfl rfl rfl fun _ _ _ _ _ _ same => same,
      referenced.kept rfl rfl, mapped nofun⟩
  | based agrees =>
    exact ⟨configured.kept rfl rfl rfl rfl rfl fun space main mapped adopted named known _ =>
      agrees space main mapped adopted named known, referenced.kept rfl rfl, mapped nofun⟩
  | retained =>
    refine ⟨configured.kept rfl rfl rfl rfl rfl fun _ _ _ _ _ _ same => same, ⟨?_⟩, mapped nofun⟩
    have balance := referenced.balance
    simp [List.countP_append, List.countP_singleton, isRetain, isRelease]
    omega
  | released held =>
    refine ⟨configured.kept rfl rfl rfl rfl rfl fun _ _ _ _ _ _ same => same, ⟨?_⟩, mapped nofun⟩
    have balance := referenced.balance
    simp [List.countP_append, List.countP_singleton, isRetain, isRelease]
    omega
  | aborted unheld =>
    refine ⟨configured.kept rfl rfl rfl rfl rfl fun _ _ _ _ _ _ same => same,
      referenced.kept rfl rfl, mapped ?_⟩
    rintro fault ⟨⟩
    rfl
  | directory =>
    exact ⟨configured.kept rfl rfl rfl rfl rfl fun _ _ _ _ _ _ same => same,
      referenced.kept rfl rfl, mapped nofun⟩
  | @adopted space main path imageBase unset unheld adoptable base =>
    refine ⟨?_, referenced.kept rfl rfl, mapped nofun⟩
    have never : trace.countP isAdoption = 0 := by
      cases configured with
      | unset _ _ _ never => exact never
      | set holds => exact absurd (unset.1.symm.trans holds.space) nofun
    refine .set ⟨rfl, rfl, rfl, rfl⟩ adoptable ?_ ?_ List.mem_concat_self
    · obtain ⟨mapped, known, -, narrow⟩ := adoptable.base
      rw [known, Option.map_some, Option.some_inj] at base
      refine ⟨mapped, known, ?_⟩
      rw [← base]
      exact UInt64.toNat_ofNat_of_lt (Nat.lt_succ_of_le narrow)
    · rw [List.countP_append, never]
      rfl
  | dangling adopted named unmapped =>
    cases configured with
    | unset noSpace => exact absurd (noSpace.symm.trans adopted) nofun
    | set holds adoptable based =>
      obtain ⟨mapped, known, -⟩ := based
      rw [holds.space, Option.some_inj] at adopted
      rw [holds.main, Option.some_inj] at named
      subst adopted named
      exact absurd (known.symm.trans unmapped) nofun

theorem invariant_run (calls : List Call) :
    Invariant (run step create calls).trace (run step create calls).state := by
  apply run_invariant step Invariant
  · exact ⟨.unset rfl rfl rfl rfl, ⟨rfl⟩, fun event member => absurd member List.not_mem_nil⟩
  · exact fun trace p call invariant => invariant_step invariant call

/-- The three fields, with the length of the path, once they are set. -/
def Keeps (before after : Win32Process) : Prop :=
  before.moduleSpace.isSome → after.moduleSpace = before.moduleSpace ∧
    after.mainModule = before.mainModule ∧ after.mainImagePath = before.mainImagePath ∧
    after.mainImagePathLength = before.mainImagePathLength

theorem keeps_step (p : Win32Process) (call : Call) : Keeps p (step p call).1 := by
  have effect := step_effect p call
  generalize (step p call).1 = after, (step p call).2 = answer at effect
  intro adopted
  cases effect with
  | adopted unset => exact absurd adopted (by simp [unset.1])
  | _ => exact ⟨rfl, rfl, rfl, rfl⟩

/-- Over any calls on a process, the fields of an adoption are unset or all set, as the one
adoption left them, the space finalized and the image base the main module's; an adoption that
fails changes nothing, and one succeeds only while no reference is outstanding and none did. -/
theorem module_space_adoption (calls : List Call) :
    let p := (run step create calls).state
    let trace := (run step create calls).trace
    Invariant trace p ∧
      (∀ call status spaceIo, (step p call).2 = .adopted status spaceIo →
        ∃ given mainModule imagePath allocated,
          call = .adoptModuleSpace given mainModule imagePath allocated ∧
          (status ≠ .ok → (step p call).1 = p ∧ spaceIo = given) ∧
          (status = .ok → given.isSome ∧ spaceIo = some none ∧ p.activeReferences = 0 ∧
            trace.countP isRetain = trace.countP isRelease ∧ trace.countP isAdoption = 0)) ∧
      ∀ more, Keeps p (run step create (calls ++ more)).state := by
  intro p trace
  have invariant := invariant_run calls
  refine ⟨invariant, ?_, ?_⟩
  · intro call status spaceIo answered
    have effect := step_effect p call
    rw [answered] at effect
    generalize (step p call).1 = after at effect
    cases effect with
    | notAdopted failed =>
      exact ⟨_, _, _, _, rfl, fun _ => ⟨rfl, rfl⟩, fun fine => absurd fine failed⟩
    | adopted unset unheld adoptable base =>
      refine ⟨_, _, _, _, rfl, fun failed => absurd rfl failed,
        fun _ => ⟨rfl, rfl, unheld, ?_, ?_⟩⟩
      · have balance := invariant.referenced.balance
        rw [show (run step create calls).state.activeReferences = 0 from unheld] at balance
        exact (balance.symm.trans (Nat.zero_add _))
      · cases invariant.configured with
        | unset _ _ _ never => exact never
        | set holds => exact absurd (unset.1.symm.trans holds.space) nofun
  · intro more
    refine run_steps step Keeps (fun _ _ => ⟨rfl, rfl, rfl, rfl⟩) ?_ keeps_step create calls more
    intro first second third one two adopted
    obtain ⟨space, main, path, length⟩ := one adopted
    obtain ⟨space', main', path', length'⟩ := two (space ▸ adopted)
    exact ⟨space'.trans space, main'.trans main, path'.trans path, length'.trans length⟩

end SadLayer.ProcessModules
