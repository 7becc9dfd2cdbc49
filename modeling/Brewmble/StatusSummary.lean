import Brewmble.Daemon
import Mathlib.Data.List.Perm.Basic

/-!
# The status query and its summary

A status command queries every target once and prints a summary of the reports.
Workers run concurrently: the order in which they pass the set of seen addresses
and the order in which they push their reports are both arbitrary.

The query distinguishes five outcomes and passes on two flags. Only a parsed
status response can raise the outdated flag; only a failed connection raises the
failed flag. The verdict line is printed whenever no report is outdated, so it
says nothing about the outcomes that raise neither flag, and it is printed beside
the line of the failed ones.

A response body is what the tool decodes from it: a status response or not, and
a JSON value, given by its pretty text, or not. The text of a status code is a
parameter. Progress bars and the blocks printed per node are not modelled.
-/

namespace Brewmble.StatusSummary

open Rest Daemon

/-- A response body as the tool decodes it. -/
structure Body where
  statusResponse : Option StatusResponse
  /-- The decoded JSON value by its pretty text, which may fail to be made. -/
  json : Option (Except String String)

/-- What sending the status request yields. -/
inductive Answer where
  | unreachable (err : String)
  | answered (status : StatusCode) (body : Body)

/-- The five values that `query_status` returns. -/
structure QueryResult where
  status : String
  message : String
  details : String
  failed : Bool
  outdated : Bool
  deriving DecidableEq, Repr

/-- The lines shown for a decoded status response. -/
def statusDetails (sr : StatusResponse) : String :=
  (match sr.daemonVersion with
    | some version => "Daemon version: " ++ version ++ "\n"
    | none => "") ++
  "Upgrading: " ++ toString sr.isUpgrading ++ "\n" ++
  "Allow reboot: " ++ toString sr.allowReboot ++ "\n" ++
  "Auto clean: " ++ toString sr.autoClean ++ "\n" ++
  "Auto remove: " ++ toString sr.autoRemove ++ "\n" ++
  if sr.updates = [] then "No updates available.\n"
  else "Updates:\n" ++ String.join (sr.updates.map fun update => "  - " ++ update ++ "\n")

/-- `query_status`, given what sending the request yielded. -/
def queryStatus (display : StatusCode → String) : Answer → QueryResult
  | .answered status body =>
    if status.isSuccess then
      match body.statusResponse with
      | some sr => ⟨display status, sr.message, statusDetails sr, false, !sr.updates.isEmpty⟩
      | none => ⟨display status, "Could not parse StatusResponse", "", false, false⟩
    else
      match body.json with
      | some (.ok pretty) => ⟨display status, "", pretty, false, false⟩
      | some (.error _) => ⟨display status, "", "Failed to pretty-print JSON", false, false⟩
      | none => ⟨display status, "Could not parse response as JSON", "", false, false⟩
  | .unreachable err => ⟨"Error: " ++ err, "", "", true, false⟩

/-- An address with the name it is reported under, if any. -/
structure Target where
  address : String
  name : Option String
  deriving DecidableEq, Repr

structure Report where
  name : String
  failed : Bool
  outdated : Bool
  deriving DecidableEq, Repr

/-- The targets that are queried, given the order in which their workers pass the
set of seen addresses: the first of each address. -/
def firstSeen : List String → List Target → List Target
  | _, [] => []
  | seen, target :: rest =>
    if target.address ∈ seen then firstSeen seen rest
    else target :: firstSeen (target.address :: seen) rest

/-- What the worker of one target pushes after its query. -/
def Target.report (target : Target) (result : QueryResult) : Report where
  name := target.name.getD target.address
  failed := result.failed
  outdated := result.outdated

def report (display : StatusCode → String) (answers : String → Answer) (target : Target) : Report :=
  target.report (queryStatus display (answers target.address))

def allUpToDateLine : String := "- All nodes are up to date."

def outdatedLine (names : List String) : String :=
  "- " ++ toString names.length ++ " node(s) are outdated: " ++ String.intercalate ", " names

def failedLine (names : List String) : String :=
  "- " ++ toString names.length ++ " node(s) failed to respond: " ++ String.intercalate ", " names

/-- The lines that `run_status` prints after all reports are in. -/
def summary (reports : List Report) : List String :=
  if reports = [] then []
  else
    let outdatedNodes := (reports.filter (·.outdated)).map (·.name)
    let failedNodes := (reports.filter (·.failed)).map (·.name)
    ["Summary:"] ++
      (if outdatedNodes = [] then [allUpToDateLine] else [outdatedLine outdatedNodes]) ++
      (if failedNodes = [] then [] else [failedLine failedNodes])

/-- The reports of one status command over a queue of targets: the workers pass
the seen set in some order and push their reports in some order. -/
def Reported (display : StatusCode → String) (answers : String → Answer) (queue : List Target)
    (reports : List Report) : Prop :=
  ∃ order : List Target, order.Perm queue ∧
    reports.Perm ((firstSeen [] order).map (report display answers))

namespace Answer

/-- The status response of a successful answer, where it can be decoded. -/
def decoded : Answer → Option StatusResponse
  | .answered status body => if status.isSuccess then body.statusResponse else none
  | .unreachable _ => none

/-- A successful answer whose status response lists no updates. -/
def UpToDate (answer : Answer) : Prop := ∃ sr, answer.decoded = some sr ∧ sr.updates = []

/-- A successful answer whose status response lists updates. -/
def ReportsUpdates (answer : Answer) : Prop := ∃ sr, answer.decoded = some sr ∧ sr.updates ≠ []

/-- Only a decoded status response can raise the outdated flag. -/
theorem outdated_iff (display : StatusCode → String) (answer : Answer) :
    (queryStatus display answer).outdated = true ↔ answer.ReportsUpdates := by
  cases answer with
  | unreachable err => simp [queryStatus, ReportsUpdates, decoded]
  | answered status body =>
    by_cases success : status.isSuccess = true
    · cases response : body.statusResponse with
      | none => simp [queryStatus, ReportsUpdates, decoded, success, response]
      | some sr => simp [queryStatus, ReportsUpdates, decoded, success, response]
    · have undecoded : ¬ (Answer.answered status body).ReportsUpdates := by
        simp [ReportsUpdates, decoded, success]
      cases json : body.json with
      | none => simp [queryStatus, success, json, undecoded]
      | some value => cases value <;> simp [queryStatus, success, json, undecoded]

end Answer

/-- The queried targets have exactly the addresses of the queue that were not
seen before.

Proof: induct on the queue with the seen set arbitrary. A skipped target's
address is already seen; a queried one joins the seen set for the rest. -/
theorem firstSeen_addresses (queue : List Target) (seen : List String) (address : String) :
    address ∈ (firstSeen seen queue).map (·.address) ↔
      address ∉ seen ∧ address ∈ queue.map (·.address) := by
  induction queue generalizing seen with
  | nil => simp [firstSeen]
  | cons target rest inductionHypothesis =>
    by_cases already : target.address ∈ seen
    · rw [firstSeen, if_pos already, inductionHypothesis seen, List.map_cons, List.mem_cons]
      constructor
      · rintro ⟨unseen, member⟩
        exact ⟨unseen, .inr member⟩
      · rintro ⟨unseen, rfl | member⟩
        · exact absurd already unseen
        · exact ⟨unseen, member⟩
    · rw [firstSeen, if_neg already, List.map_cons, List.mem_cons, inductionHypothesis,
        List.map_cons, List.mem_cons, List.mem_cons]
      constructor
      · rintro (rfl | ⟨unseen, member⟩)
        · exact ⟨already, .inl rfl⟩
        · exact ⟨fun seen => unseen (.inr seen), .inr member⟩
      · rintro ⟨unseen, member⟩
        by_cases same : address = target.address
        · exact .inl same
        · refine .inr ⟨by simp [same, unseen], member.resolve_left same⟩

/-- One more target at the end is queried when its address is new.

Proof: induct on the earlier targets with the seen set arbitrary. An earlier
address that is skipped is already in the seen set. -/
theorem firstSeen_concat (queue : List Target) (seen : List String) (target : Target) :
    firstSeen seen (queue ++ [target]) = firstSeen seen queue ++
      if target.address ∈ seen ∨ target.address ∈ queue.map (·.address) then [] else [target] := by
  induction queue generalizing seen with
  | nil => by_cases already : target.address ∈ seen <;> simp [firstSeen, already]
  | cons earlier rest inductionHypothesis =>
    by_cases already : earlier.address ∈ seen
    · have covered : (target.address ∈ seen ∨ target.address ∈ rest.map (·.address)) ↔
          target.address ∈ seen ∨ target.address ∈ (earlier :: rest).map (·.address) := by
        rw [List.map_cons, List.mem_cons]
        constructor
        · rintro (known | later)
          · exact .inl known
          · exact .inr (.inr later)
        · rintro (known | same | later)
          · exact .inl known
          · exact .inl (same ▸ already)
          · exact .inr later
      rw [List.cons_append, firstSeen, if_pos already, inductionHypothesis seen, firstSeen,
        if_pos already]
      simp only [covered]
    · have covered : (target.address ∈ earlier.address :: seen ∨
            target.address ∈ rest.map (·.address)) ↔
          target.address ∈ seen ∨ target.address ∈ (earlier :: rest).map (·.address) := by
        rw [List.map_cons, List.mem_cons, List.mem_cons]
        tauto
      rw [List.cons_append, firstSeen, if_neg already, inductionHypothesis, firstSeen,
        if_neg already, List.cons_append]
      simp only [covered]

/-- No address is queried twice. -/
theorem firstSeen_distinct (queue : List Target) (seen : List String) :
    ((firstSeen seen queue).map (·.address)).Nodup := by
  induction queue generalizing seen with
  | nil => simp [firstSeen]
  | cons target rest inductionHypothesis =>
    by_cases already : target.address ∈ seen
    · rw [firstSeen, if_pos already]
      exact inductionHypothesis seen
    · rw [firstSeen, if_neg already, List.map_cons, List.nodup_cons]
      refine ⟨?_, inductionHypothesis (target.address :: seen)⟩
      intro member
      exact ((firstSeen_addresses rest _ target.address).mp member).1 List.mem_cons_self

/-- Some pushed report is outdated exactly when some queued address reports
updates, in whatever order the workers ran. -/
theorem reported_outdated {display : StatusCode → String} {answers : String → Answer}
    {queue : List Target} {reports : List Report} (reported : Reported display answers queue reports) :
    (∃ pushed ∈ reports, pushed.outdated = true) ↔
      ∃ target ∈ queue, (answers target.address).ReportsUpdates := by
  obtain ⟨order, taken, pushed⟩ := reported
  constructor
  · rintro ⟨entry, member, outdated⟩
    obtain ⟨source, queried, rfl⟩ := List.mem_map.mp (pushed.mem_iff.mp member)
    have listed : source.address ∈ order.map (·.address) :=
      ((firstSeen_addresses order [] source.address).mp (List.mem_map_of_mem queried)).2
    obtain ⟨target, queued, same⟩ := List.mem_map.mp listed
    refine ⟨target, taken.mem_iff.mp queued, ?_⟩
    rw [same]
    exact (Answer.outdated_iff display _).mp outdated
  · rintro ⟨target, queued, updates⟩
    have listed : target.address ∈ (firstSeen [] order).map (·.address) :=
      (firstSeen_addresses order [] target.address).mpr
        ⟨by simp, List.mem_map_of_mem (taken.mem_iff.mpr queued)⟩
    obtain ⟨source, queried, same⟩ := List.mem_map.mp listed
    refine ⟨report display answers source, pushed.mem_iff.mpr (List.mem_map_of_mem queried), ?_⟩
    exact (Answer.outdated_iff display _).mpr (same ▸ updates)

/-- There are reports exactly when there are targets. -/
theorem reported_nonempty {display : StatusCode → String} {answers : String → Answer}
    {queue : List Target} {reports : List Report} (reported : Reported display answers queue reports) :
    reports ≠ [] ↔ queue ≠ [] := by
  obtain ⟨order, taken, pushed⟩ := reported
  have queried : firstSeen [] order = [] ↔ order = [] := by
    cases order <;> simp [firstSeen]
  have empty : reports = [] ↔ queue = [] := by
    rw [← List.perm_nil, pushed.congr_left, List.perm_nil, List.map_eq_nil_iff, queried,
      ← List.perm_nil, taken.congr_left, List.perm_nil]
  exact not_congr empty

/-- A line that begins with a count is not the verdict: its third character is a
digit. -/
theorem counted_line_differs (count : Nat) (rest : String) :
    "- " ++ toString count ++ rest ≠ allUpToDateLine := by
  intro same
  have characters : '-' :: ' ' :: (Nat.toDigits 10 count ++ rest.toList) =
      allUpToDateLine.toList := by
    have text := congrArg String.toList same
    simpa [String.toList_append, Nat.repr] using text
  cases digits : Nat.toDigits 10 count with
  | nil => exact Nat.toDigits_ne_nil digits
  | cons digit more =>
    have isDigit : digit.isDigit = true := by
      have member : digit ∈ Nat.toDigits 10 count := by
        rw [digits]
        exact List.mem_cons_self
      exact Nat.isDigit_of_mem_toDigits (by omega) (by omega) member
    rw [digits] at characters
    have third : digit = 'A' := congrArg (fun line : List Char => line.getD 2 ' ') characters
    rw [third] at isDigit
    exact absurd isDigit (by decide)

/-- The verdict is printed exactly when there are reports and none is outdated. -/
theorem verdict_printed_iff (reports : List Report) :
    allUpToDateLine ∈ summary reports ↔
      reports ≠ [] ∧ ¬ ∃ pushed ∈ reports, pushed.outdated = true := by
  have outdatedDiffers (names : List String) : allUpToDateLine ≠ outdatedLine names := by
    unfold outdatedLine
    rw [String.append_assoc]
    exact (counted_line_differs names.length _).symm
  have failedDiffers (names : List String) : allUpToDateLine ≠ failedLine names := by
    unfold failedLine
    rw [String.append_assoc]
    exact (counted_line_differs names.length _).symm
  have headerDiffers : allUpToDateLine ≠ "Summary:" := by decide
  by_cases empty : reports = []
  · simp [summary, empty]
  · by_cases some : ∃ pushed ∈ reports, pushed.outdated = true
    · have listed : (reports.filter (·.outdated)).map (·.name) ≠ [] := by
        simpa [List.filter_eq_nil_iff] using some
      simp only [summary, if_neg empty, if_neg listed]
      constructor
      · intro printed
        split at printed <;> simp [headerDiffers, outdatedDiffers, failedDiffers] at printed
      · rintro ⟨_, none⟩
        exact absurd some none
    · have unlisted : (reports.filter (·.outdated)).map (·.name) = [] := by
        simpa [List.filter_eq_nil_iff] using some
      simp only [summary, if_neg empty, if_pos unlisted]
      constructor
      · intro _
        exact ⟨empty, some⟩
      · intro _
        simp

/-- The condition under which the verdict is sound: printed, it means that every
queried node answered successfully with a status response that lists no updates.

Soundness holds exactly when some node reports updates, so that the verdict is
not printed at all, or every node answers successfully with a status response.
Any other outcome beside nodes without updates makes the verdict wrong.

Proof: the verdict is printed exactly when there are targets and none of them
reports updates; a decoded answer either lists updates or is up to date. -/
theorem verdict_sound_iff (display : StatusCode → String) (answers : String → Answer)
    (queue : List Target) (reports : List Report)
    (reported : Reported display answers queue reports) :
    (allUpToDateLine ∈ summary reports → ∀ target ∈ queue, (answers target.address).UpToDate) ↔
      (∃ target ∈ queue, (answers target.address).ReportsUpdates) ∨
        ∀ target ∈ queue, (answers target.address).decoded ≠ none := by
  rw [verdict_printed_iff, reported_nonempty reported, reported_outdated reported]
  constructor
  · intro sound
    by_cases updates : ∃ target ∈ queue, (answers target.address).ReportsUpdates
    · exact .inl updates
    · refine .inr ?_
      intro target queued undecoded
      have nonempty : queue ≠ [] := List.ne_nil_of_mem queued
      obtain ⟨sr, decoded, _⟩ := sound ⟨nonempty, updates⟩ target queued
      rw [undecoded] at decoded
      cases decoded
  · rintro (updates | decoded) ⟨_, none⟩ target queued
    · exact absurd updates none
    · obtain ⟨sr, found⟩ := Option.ne_none_iff_exists'.mp (decoded target queued)
      refine ⟨sr, found, ?_⟩
      by_contra listed
      exact none ⟨target, queued, sr, found, listed⟩

/-- What the tool receives from a daemon running `status_handler`. The tool
decodes the body that the handler encodes. -/
def daemonAnswer (state : AppState) (isUpgrading : Bool)
    (getUpdates : Except String (List String)) (pretty : StatusResponse → String) : Answer :=
  let (status, response) := statusHandler state isUpgrading getUpdates
  .answered status ⟨some response, some (.ok (pretty response))⟩

/-- A daemon's answer is decoded exactly when its package manager is available
and has answered, and then lists the updates of that answer. -/
theorem daemon_answer_decoded (state : AppState) (isUpgrading : Bool)
    (getUpdates : Except String (List String)) (pretty : StatusResponse → String) :
    (daemonAnswer state isUpgrading getUpdates pretty).decoded.map (·.updates) =
      if state.pmAvailable = true then getUpdates.toOption else none := by
  cases available : state.pmAvailable with
  | false => simp [daemonAnswer, statusHandler, available, Answer.decoded, StatusCode.isSuccess,
      StatusCode.preconditionFailed]
  | true =>
    cases getUpdates with
    | ok updates => simp [daemonAnswer, statusHandler, available, Answer.decoded,
        StatusCode.isSuccess, StatusCode.ok, AppState.statusResponse, Except.toOption]
    | error err => simp [daemonAnswer, statusHandler, available, Answer.decoded,
        StatusCode.isSuccess, StatusCode.internalServerError, Except.toOption]

/-- A daemon on a system without its package manager. -/
def withoutPackageManager : AppState := ⟨false, false, false, "apt", false⟩

/-- One daemon without a package manager answers 412, raises neither flag, and is
called up to date. -/
theorem missing_package_manager_called_up_to_date :
    ¬ ∀ display answers queue reports, Reported display answers queue reports →
      allUpToDateLine ∈ summary reports → ∀ target ∈ queue, (answers target.address).UpToDate := by
  intro claimed
  have sound := claimed (fun _ => "412 Precondition Failed")
    (fun _ => daemonAnswer withoutPackageManager false (.ok []) (·.message)) [⟨"apt.local:3625", none⟩]
    [⟨"apt.local:3625", false, false⟩] ⟨_, .refl _, .refl _⟩ (by decide)
    ⟨"apt.local:3625", none⟩ List.mem_cons_self
  obtain ⟨sr, decoded, _⟩ := sound
  cases decoded

/-- A daemon with its package manager and nothing to update. -/
def withPackageManager : AppState := ⟨false, false, false, "apt", true⟩

/-- For two names of one current daemon the verdict is printed and sound. -/
theorem current_daemon_called_up_to_date :
    allUpToDateLine ∈ summary [⟨"apt.local:3625", false, false⟩] ∧
      (daemonAnswer withPackageManager false (.ok []) (·.message)).UpToDate := by
  refine ⟨by decide, ?_⟩
  have sound := (verdict_sound_iff (fun _ => "200 OK")
    (fun _ => daemonAnswer withPackageManager false (.ok []) (·.message))
    [⟨"apt.local:3625", none⟩, ⟨"apt.local:3625", some "apt"⟩] [⟨"apt.local:3625", false, false⟩]
    ⟨_, .refl _, .refl _⟩).mpr (.inr (fun _ _ => Option.some_ne_none _))
  exact sound (by decide) ⟨"apt.local:3625", none⟩ List.mem_cons_self

end Brewmble.StatusSummary
