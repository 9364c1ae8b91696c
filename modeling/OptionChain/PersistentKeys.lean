import OptionChain.Deployments
import OptionChain.Globs
import OptionChain.JoinedKeys

/-!
# Names of what is stored

The files of a book and the id of a deployment are joined from client, binding,
strategy and underlying with underscores, and each of these may have underscores of its
own. The history of a client drops characters from its id, and the listing of a
client's deployments reads the id as a pattern.

A file is told apart by the text of its path.
-/

namespace OptionChain.PersistentKeys

open Deployments Globs JoinedKeys

/-- `os.path.join`, of a directory and one name. -/
def pathJoin (directory name : String) : String :=
  if name.toList.head? = some '/' then name else directory ++ "/" ++ name

/-- `_path` of the position store. -/
def storePath (key : String) : String := pathJoin "data/positions" (key ++ ".json")

section Keys

variable (d : Deployment)

/-- `_persist_key`. A book without client and binding is the one of its index. -/
def persistKey : String :=
  if d.clientId ≠ "" ∧ d.bindingId ≠ "" then
    d.clientId ++ "_" ++ d.bindingId ++ "_" ++ d.underlying ++ "_sell_straddle"
  else d.underlying ++ "_sell_straddle"

def positionFile : String := storePath (persistKey d)

def sessionFile : String := storePath (persistKey d ++ "_session")

/-- `_position_file` of the trap engine, which keeps its underlying in capitals. -/
def trapPositionFile : String :=
  pathJoin "data"
    ("trap_scanner_" ++ d.clientId ++ "_" ++ d.bindingId ++ "_" ++ d.underlying.toUpper ++ ".json")

end Keys

section History

-- Which characters `str.isalnum` accepts.
variable (isalnum : Char → Bool)

/-- The part of a client id that names its history. -/
def safeName (clientId : String) : String :=
  let kept := String.ofList (clientId.toList.filter (fun c => isalnum c || c == '_' || c == '-'))
  if kept = "" then "unknown" else kept

/-- `_path` of the trade history. -/
def historyPath (clientId : String) : String :=
  pathJoin "data/history" (safeName isalnum clientId ++ ".json")

end History

/-! ## The deployment directory -/

/-- What a deployment file holds, as far as it is read. -/
structure DeployJson where
  deployId : String
  clientId : String
  isActive : Bool
  savedAt : String
deriving DecidableEq

structure DeployFile where
  name : String
  data : DeployJson
deriving DecidableEq

inductive FileOp where
  | save (d : Deployment) (savedAt : String)
  | delete (deployId : String)

/-- `save_deployment_json`. A name with a slash names a directory that does not exist. -/
def saveDeploymentJson (files : List DeployFile) (d : Deployment) (savedAt : String) :
    List DeployFile :=
  let name := d.deployId ++ ".json"
  if '/' ∈ name.toList then files
  else files.filter (fun file => decide (file.name ≠ name)) ++
    [⟨name, ⟨d.deployId, d.clientId, true, savedAt⟩⟩]

/-- `delete_deployment_json` keeps the file. -/
def deleteDeploymentJson (files : List DeployFile) (deployId : String) : List DeployFile :=
  files.map (fun file =>
    if file.name = deployId ++ ".json" then
      { file with data := { file.data with isActive := false } }
    else file)

def executeFile (files : List DeployFile) : FileOp → List DeployFile
  | .save d savedAt => saveDeploymentJson files d savedAt
  | .delete deployId => deleteDeploymentJson files deployId

/-- The directory after some saves and deletions. -/
def filesAfter (ops : List FileOp) : List DeployFile := ops.foldl executeFile []

/-- `list_deployments_json`. The pattern of an id with a slash looks into a directory
that does not exist. -/
def listDeploymentsJson (files : List DeployFile) (clientId : String) : List DeployJson :=
  if '/' ∈ clientId.toList then []
  else ((files.filter (fun file =>
      fnmatch (clientId ++ "_*.json").toList file.name.toList && file.data.isActive)).map
    (·.data)).mergeSort (fun first second => decide (first.savedAt ≤ second.savedAt))

/-! ## What should be told apart -/

/-- All four parts are there. -/
structure Named (d : Deployment) : Prop where
  clientId : d.clientId ≠ ""
  bindingId : d.bindingId ≠ ""
  strategyName : d.strategyName ≠ ""
  underlying : d.underlying ≠ ""

instance (d : Deployment) : Decidable (Named d) :=
  decidable_of_iff (d.clientId ≠ "" ∧ d.bindingId ≠ "" ∧ d.strategyName ≠ "" ∧ d.underlying ≠ "")
    ⟨fun h => ⟨h.1, h.2.1, h.2.2.1, h.2.2.2⟩,
      fun h => ⟨h.clientId, h.bindingId, h.strategyName, h.underlying⟩⟩

/-- Whatever has been saved and deleted, the listing of one client gives no deployment
of the other. -/
def ListsApart (clientId other : String) : Prop :=
  ∀ ops : List FileOp, (∀ d savedAt, .save d savedAt ∈ ops → Named d) →
    ∀ data ∈ listDeploymentsJson (filesAfter ops) clientId, data.clientId ≠ other

/-- Two deployments share no file and no id, two clients no history and no listing. -/
structure Separate (isalnum : Char → Bool) (d e : Deployment) : Prop where
  straddle : d.strategyName = "sell_straddle" → e.strategyName = "sell_straddle" →
    positionFile d ≠ positionFile e ∧ sessionFile d ≠ sessionFile e ∧
      positionFile d ≠ sessionFile e ∧ sessionFile d ≠ positionFile e
  trap : d.strategyName = "trap_scanner" → e.strategyName = "trap_scanner" →
    trapPositionFile d ≠ trapPositionFile e
  deployment : d.deployId ≠ e.deployId
  history : d.clientId ≠ e.clientId →
    historyPath isalnum d.clientId ≠ historyPath isalnum e.clientId
  listing : d.clientId ≠ e.clientId →
    ListsApart d.clientId e.clientId ∧ ListsApart e.clientId d.clientId

/-- The words that underscores leave of some texts. -/
def pieces (texts : List String) : List (List Char) := words '_' (texts.map String.toList)

/-- Read as a pattern, an id matches something that is the other id, or that differs
from it by an underscore and more. -/
def Reaches (clientId other : String) : Prop :=
  '/' ∉ clientId.toList ∧ '/' ∉ other.toList ∧ ∃ text : List Char, '/' ∉ text ∧
    fnmatch clientId.toList text = true ∧
    (text ++ ['_'] <+: other.toList ++ ['_'] ∨ other.toList ++ ['_'] <+: text)

/-- The parts differ when they are cut at their underscores; the ids of two clients
differ in what the history keeps of them, and neither reaches the other. -/
structure Distinguished (isalnum : Char → Bool) (d e : Deployment) : Prop where
  straddle : d.strategyName = "sell_straddle" → e.strategyName = "sell_straddle" →
    pieces [d.clientId, d.bindingId, d.underlying] ≠
      pieces [e.clientId, e.bindingId, e.underlying]
  trap : d.strategyName = "trap_scanner" → e.strategyName = "trap_scanner" →
    pieces [d.clientId, d.bindingId, d.underlying.toUpper] ≠
      pieces [e.clientId, e.bindingId, e.underlying.toUpper]
  deployment : pieces [d.clientId, d.bindingId, d.strategyName, d.underlying] ≠
    pieces [e.clientId, e.bindingId, e.strategyName, e.underlying]
  history : d.clientId ≠ e.clientId → safeName isalnum d.clientId ≠ safeName isalnum e.clientId
  listing : d.clientId ≠ e.clientId →
    ¬Reaches d.clientId e.clientId ∧ ¬Reaches e.clientId d.clientId

/-! ## Files and ids -/

section Texts

theorem toList_eq_iff {left right : String} : left = right ↔ left.toList = right.toList :=
  String.toList_inj.symm

theorem append_inj {left right : String} (ending : String) :
    left ++ ending = right ++ ending ↔ left = right := by
  rw [toList_eq_iff, String.toList_append, String.toList_append, List.append_left_inj,
    ← toList_eq_iff]

theorem prepend_inj {left right : String} (beginning : String) :
    beginning ++ left = beginning ++ right ↔ left = right := by
  rw [toList_eq_iff, String.toList_append, String.toList_append, List.append_right_inj,
    ← toList_eq_iff]

/-- A relative directory keeps names apart. -/
theorem pathJoin_inj {directory : String} {first : Char} (relative : first ≠ '/')
    (begins : directory.toList.head? = some first) {left right : String} :
    pathJoin directory left = pathJoin directory right ↔ left = right := by
  have inside : ∀ name : String,
      (directory ++ "/" ++ name).toList.head? = some first := by
    intro name
    rw [String.toList_append, String.toList_append, List.head?_append, List.head?_append, begins]
    rfl
  refine ⟨fun same => ?_, fun same => by rw [same]⟩
  unfold pathJoin at same
  by_cases absolute : left.toList.head? = some '/' <;>
    by_cases other : right.toList.head? = some '/'
  · rwa [if_pos absolute, if_pos other] at same
  · rw [if_pos absolute, if_neg other] at same
    rw [same, inside] at absolute
    exact absurd (Option.some.inj absolute) relative
  · rw [if_neg absolute, if_pos other] at same
    rw [← same, inside] at other
    exact absurd (Option.some.inj other) relative
  · rw [if_neg absolute, if_neg other] at same
    exact (prepend_inj _).mp same

theorem storePath_inj {left right : String} : storePath left = storePath right ↔ left = right := by
  rw [storePath, storePath, pathJoin_inj (by decide : 'd' ≠ '/') (by decide), append_inj]

theorem toList_three (a b c : String) :
    (a ++ "_" ++ b ++ "_" ++ c).toList = joined '_' [a.toList, b.toList, c.toList] := by
  simp [joined, List.intercalate, List.intersperse]

theorem toList_four (a b c d : String) :
    (a ++ "_" ++ b ++ "_" ++ c ++ "_" ++ d).toList =
      joined '_' [a.toList, b.toList, c.toList, d.toList] := by
  simp [joined, List.intercalate, List.intersperse]

theorem three_eq_iff {a b c x y z : String} :
    a ++ "_" ++ b ++ "_" ++ c = x ++ "_" ++ y ++ "_" ++ z ↔
      pieces [a, b, c] = pieces [x, y, z] := by
  rw [toList_eq_iff, toList_three, toList_three]
  exact joined_eq_iff (by simp) (by simp)

theorem deployId_eq_iff {d e : Deployment} :
    d.deployId = e.deployId ↔
      pieces [d.clientId, d.bindingId, d.strategyName, d.underlying] =
        pieces [e.clientId, e.bindingId, e.strategyName, e.underlying] := by
  rw [toList_eq_iff, Deployment.deployId, Deployment.deployId, toList_four, toList_four]
  exact joined_eq_iff (by simp) (by simp)

variable {d e : Deployment}

theorem persistKey_named (named : Named d) : persistKey d =
    d.clientId ++ "_" ++ d.bindingId ++ "_" ++ d.underlying ++ "_sell_straddle" :=
  if_pos ⟨named.clientId, named.bindingId⟩

theorem persistKey_eq_iff (named : Named d) (other : Named e) :
    persistKey d = persistKey e ↔ pieces [d.clientId, d.bindingId, d.underlying] =
      pieces [e.clientId, e.bindingId, e.underlying] := by
  rw [persistKey_named named, persistKey_named other, append_inj, three_eq_iff]

/-- A position file ends in another letter than a session file. -/
theorem persistKey_ne_session (named : Named d) (other : Named e) :
    persistKey d ≠ persistKey e ++ "_session" := by
  rw [persistKey_named named, persistKey_named other]
  generalize d.clientId ++ "_" ++ d.bindingId ++ "_" ++ d.underlying = start
  generalize e.clientId ++ "_" ++ e.bindingId ++ "_" ++ e.underlying ++ "_sell_straddle" = more
  intro same
  have last := congrArg (fun text => text.toList.getLast?) same
  simp [String.toList_append, List.getLast?_append] at last

theorem trapPositionFile_eq_iff :
    trapPositionFile d = trapPositionFile e ↔
      pieces [d.clientId, d.bindingId, d.underlying.toUpper] =
        pieces [e.clientId, e.bindingId, e.underlying.toUpper] := by
  have shape : ∀ d : Deployment, trapPositionFile d = pathJoin "data"
      ("trap_scanner_" ++ (d.clientId ++ "_" ++ d.bindingId ++ "_" ++ d.underlying.toUpper) ++
        ".json") := by
    intro d
    simp only [trapPositionFile, String.append_assoc]
  rw [shape, shape, pathJoin_inj (by decide : 'd' ≠ '/') (by decide), append_inj,
    prepend_inj, three_eq_iff]

theorem historyPath_eq_iff (isalnum : Char → Bool) (clientId other : String) :
    historyPath isalnum clientId = historyPath isalnum other ↔
      safeName isalnum clientId = safeName isalnum other := by
  rw [historyPath, historyPath, pathJoin_inj (by decide : 'd' ≠ '/') (by decide),
    append_inj]

end Texts

/-! ## Listings -/

section Listings

/-- A file is named after a deployment that was saved, and no file is in a directory
below. -/
def From (ops : List FileOp) (file : DeployFile) : Prop :=
  ∃ d savedAt, .save d savedAt ∈ ops ∧ file.name = d.deployId ++ ".json" ∧
    file.data.clientId = d.clientId ∧ '/' ∉ file.name.toList

theorem from_later {ops : List FileOp} {file : DeployFile} (op : FileOp) (known : From ops file) :
    From (ops ++ [op]) file := by
  obtain ⟨d, savedAt, saved, rest⟩ := known
  exact ⟨d, savedAt, by simp [saved], rest⟩

theorem from_filesAfter (ops : List FileOp) : ∀ file ∈ filesAfter ops, From ops file := by
  induction ops using List.reverseRecOn with
  | nil => simp [filesAfter]
  | append_singleton earlier op inductionHypothesis =>
    intro file listed
    rw [filesAfter, List.foldl_append, List.foldl_cons, List.foldl_nil] at listed
    change file ∈ executeFile (filesAfter earlier) op at listed
    cases op with
    | save d savedAt =>
      simp only [executeFile, saveDeploymentJson] at listed
      split at listed
      · exact from_later _ (inductionHypothesis file listed)
      · rename_i below
        rcases List.mem_append.mp listed with kept | new
        · exact from_later _ (inductionHypothesis file (List.mem_filter.mp kept).1)
        · rw [List.mem_singleton.mp new]
          exact ⟨d, savedAt, by simp, rfl, rfl, below⟩
    | delete deployId =>
      obtain ⟨before, stored, rfl⟩ := List.mem_map.mp listed
      have known := from_later (.delete deployId) (inductionHypothesis before stored)
      split
      · exact known
      · exact known

theorem mem_list {files : List DeployFile} {clientId : String} {data : DeployJson} :
    data ∈ listDeploymentsJson files clientId ↔ '/' ∉ clientId.toList ∧
      ∃ file ∈ files, fnmatch (clientId ++ "_*.json").toList file.name.toList = true ∧
        file.data.isActive = true ∧ file.data = data := by
  unfold listDeploymentsJson
  split
  · rename_i below
    simp [below]
  · rename_i here
    simp [here, and_assoc]

/-- What the pattern of a client matches: a name with an underscore after a text that its
id matches. -/
theorem pattern_iff (clientId name : String) :
    fnmatch (clientId ++ "_*.json").toList (name ++ ".json").toList = true ↔
      ∃ front back, name.toList = front ++ '_' :: back ∧ fnmatch clientId.toList front = true := by
  have shape : "_*.json".toList = '_' :: '*' :: ".json".toList := by decide
  rw [String.toList_append, String.toList_append, shape]
  apply fnmatch_prefix
  · decide
  · exact ⟨by decide, by decide⟩

/-- Texts that both begin an id: one of them begins the other. -/
theorem begins_both {front back start rest : List Char}
    (same : front ++ '_' :: back = start ++ '_' :: rest) :
    front ++ ['_'] <+: start ++ ['_'] ∨ start ++ ['_'] <+: front := by
  have left : front ++ ['_'] <+: start ++ '_' :: rest := ⟨back, by simp [← same]⟩
  have right : start ++ ['_'] <+: start ++ '_' :: rest := ⟨rest, by simp⟩
  rcases List.prefix_or_prefix_of_prefix left right with shorter | longer
  · exact .inl shorter
  · rcases List.prefix_concat_iff.mp longer with equal | inside
    · exact .inl (equal ▸ List.prefix_rfl)
    · exact .inr inside

/-- The id of a deployment, from its client on. -/
theorem deployId_toList (d : Deployment) : d.deployId.toList = d.clientId.toList ++
    '_' :: (d.bindingId ++ "_" ++ d.strategyName ++ "_" ++ d.underlying).toList := by
  simp [Deployment.deployId]

/-- One saved deployment. -/
theorem filesAfter_single (d : Deployment) (flat : '/' ∉ (d.deployId ++ ".json").toList) :
    filesAfter [.save d ""] = [⟨d.deployId ++ ".json", ⟨d.deployId, d.clientId, true, ""⟩⟩] := by
  simp only [filesAfter, List.foldl_cons, List.foldl_nil, executeFile, saveDeploymentJson,
    if_neg flat]
  rfl

/-- What one client reaches of another is listed as soon as it is saved. -/
theorem listed_of_begins {clientId : String} {d : Deployment} (named : Named d)
    (plain : '/' ∉ clientId.toList) (flat : '/' ∉ d.deployId.toList) {text : List Char}
    (matched : fnmatch clientId.toList text = true) (begins : text ++ ['_'] <+: d.deployId.toList) :
    ¬ListsApart clientId d.clientId := by
  intro apart
  have noSlash : '/' ∉ (d.deployId ++ ".json").toList := by
    rw [String.toList_append, List.mem_append, not_or]
    exact ⟨flat, by decide⟩
  obtain ⟨back, shape⟩ := begins
  let data : DeployJson := ⟨d.deployId, d.clientId, true, ""⟩
  have stored : ⟨d.deployId ++ ".json", data⟩ ∈ filesAfter [.save d ""] := by
    rw [filesAfter_single d noSlash]
    exact List.mem_singleton_self _
  have listed := (pattern_iff clientId d.deployId).mpr
    ⟨text, back, by rw [← shape, List.append_assoc]; rfl, matched⟩
  have found : data ∈ listDeploymentsJson (filesAfter [.save d ""]) clientId :=
    mem_list.mpr ⟨plain, _, stored, listed, rfl, rfl⟩
  refine apart [.save d ""] ?_ data found rfl
  intro other savedAt saved
  obtain ⟨rfl, -⟩ : other = d ∧ savedAt = "" := by simpa using saved
  exact named

/-- The listing of a client gives a deployment of another one in some history exactly if
its id reaches the other. -/
theorem listsApart_iff {clientId other : String} (named : other ≠ "") :
    ListsApart clientId other ↔ ¬Reaches clientId other := by
  constructor
  · rintro apart ⟨plain, otherPlain, text, textPlain, matched, shorter | longer⟩
    · refine listed_of_begins (d := ⟨other, "b", "s", "u"⟩)
        ⟨named, by simp, by simp, by simp⟩ plain ?_ matched ?_ apart
      · rw [deployId_toList, List.mem_append, not_or]
        have fixed : '/' ∉ '_' :: ("b" ++ "_" ++ "s" ++ "_" ++ "u").toList := by decide
        exact ⟨otherPlain, fixed⟩
      · rw [deployId_toList]
        exact shorter.trans ⟨_, by simp; rfl⟩
    · obtain ⟨more, rfl⟩ := longer
      refine listed_of_begins (d := ⟨other, String.ofList (more ++ ['_', 'b']), "s", "u"⟩)
        ⟨named, ?_, by simp, by simp⟩ plain ?_ matched ?_ apart
      · intro empty
        have nothing := congrArg String.toList empty
        simp at nothing
      · rw [deployId_toList]
        simp only [List.mem_append, not_or] at textPlain
        simp [otherPlain, textPlain.2]
      · rw [deployId_toList]
        exact ⟨['b', '_', 's', '_', 'u'], by simp⟩
  · intro unreached ops named data listed same
    obtain ⟨plain, file, stored, matched, -, rfl⟩ := mem_list.mp listed
    obtain ⟨d, savedAt, saved, name, owner, flat⟩ := from_filesAfter ops file stored
    rw [name, pattern_iff] at matched
    obtain ⟨front, back, shape, front_matched⟩ := matched
    have client : d.clientId = other := owner.symm.trans same
    rw [name, String.toList_append, List.mem_append, not_or] at flat
    have whole := flat.1
    rw [shape] at whole
    rw [deployId_toList] at shape flat
    refine unreached ⟨plain, ?_, front, ?_, front_matched, ?_⟩
    · rw [← client]
      exact fun inside => flat.1 (List.mem_append_left _ inside)
    · exact fun inside => whole (List.mem_append_left _ inside)
    · rw [← client]
      exact begins_both shape.symm

end Listings

end OptionChain.PersistentKeys
