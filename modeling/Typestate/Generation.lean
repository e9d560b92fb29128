import Typestate.CompilationUnit
import Typestate.Generation.Pool
import Typestate.Settings

/-! # Generation

From an entity to its compilation unit: the groups are checked, a wrapper is assembled for every
permutation, and the wrappers are put together. Any inconsistency ends the whole generation.

* `Assembler.ofEntity`: what assembling needs, from settings, registry and entity.
* `assembleAll`: the wrappers of all permutations, one after another or by a pool of workers.
* `generateBy`: generation with a pool that works by a schedule; `generate` is the one in which
  tasks are carried out in their own order. `generateBy_eq` says that it makes no difference. -/

namespace Typestate

/-- What assembling the wrappers of an entity needs. -/
def Assembler.ofEntity (settings : Settings) (registry : Registry) (entity : Entity)
    (groups : GroupMap) : Assembler where
  entity := entity
  resolver := ⟨groups, registry, settings.nameSuffix, some entity.name⟩
  fieldName := settings.fieldName
  argumentName := settings.argumentName

/-- The place with the entity named, if it names none. -/
def Site.withEntity (entity : String) (s : Site) : Site :=
  match s.entity with
  | none => { s with entity := some entity }
  | some _ => s

/-- The report about successors that have no wrapper. -/
def danglingReport (entity : Entity) (names : List String) : Report :=
  Report.inconsistent .danglingReference
    ("Transitions reference wrappers that were not generated: " ++ Text.commaList names)
    { entity := some entity.name, states := names }

/-- The wrappers of the given permutations; several workers work by the schedule. -/
def assembleAll (schedule : Schedule) (workers : Int) (a : Assembler)
    (permutations : List Permutation) : Except Failure (List Wrapper) :=
  if 1 < workers then Pool.run schedule workers a.assemble permutations
  else permutations.mapM a.assemble

/-- The unit, once its references are known to be found. -/
def checkReferences (unit : CompilationUnit) : Except Failure CompilationUnit :=
  if unit.unresolved.isEmpty then .ok unit
  else .error (.report (danglingReport unit.entity unit.unresolved))

/-- The unit of an entity, before the entity's name is put into reports that lack it. -/
def expand (schedule : Schedule) (settings : Settings) (registry : Registry) (entity : Entity) :
    Except Failure CompilationUnit := do
  let groups ← GroupMap.ofGroups entity.groups
  groups.validate (some entity.name)
  let wrappers ← assembleAll schedule settings.maxWorkers
    (Assembler.ofEntity settings registry entity groups) (Permutation.enumerate groups.stateLists)
  let unit ← CompilationUnit.make entity wrappers settings.nameSuffix
  checkReferences unit

/-- The unit of an entity, by a pool that works by the schedule. -/
def generateBy (schedule : Schedule) (settings : Settings) (registry : Registry) (entity : Entity) :
    Except Failure CompilationUnit :=
  (expand schedule settings registry entity).mapError
    (Failure.mapSite (Site.withEntity entity.name))

/-- **The unit of an entity.** -/
def generate (settings : Settings) (registry : Registry) (entity : Entity) :
    Except Failure CompilationUnit :=
  generateBy Schedule.inOrder settings registry entity

theorem assembleAll_eq_mapM (schedule : Schedule) (workers : Int) (a : Assembler)
    (permutations : List Permutation) :
    assembleAll schedule workers a permutations = permutations.mapM a.assemble := by
  unfold assembleAll
  split
  · exact Pool.run_eq_mapM _ _ _ _
  · rfl

/-- **The schedule makes no difference.** -/
theorem generateBy_eq (schedule : Schedule) (settings : Settings) (registry : Registry)
    (entity : Entity) : generateBy schedule settings registry entity =
      generate settings registry entity := by
  simp only [generate, generateBy, expand, assembleAll_eq_mapM]

end Typestate
