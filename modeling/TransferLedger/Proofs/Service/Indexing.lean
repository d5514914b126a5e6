/-
# TransferLedger.Proofs.Service.Indexing -- a list of logs is indexed as a whole

A request that posts logs is refused with the first of them that has a bad word, and nothing has
happened then. Otherwise the rows of all of them go in, the later ones over the earlier ones and all
of them over what was there, and the same request again is answered in the same way and changes
nothing. No other request touches the logs. So after any requests to a service that began without
logs, its health tells how many places of the chain the accepted logs have.
-/

import TransferLedger.Proofs.Json.Fields
import TransferLedger.Proofs.LogStore.Override
import TransferLedger.Proofs.Reconcile.Atomic
import TransferLedger.Proofs.Reconcile.Touched
import TransferLedger.Service.Api

namespace TransferLedger

open TransferLedger.Fallible

/-! ## Logs and their rows -/

/-- The place of a log in the chain. -/
def RawLog.key (log : RawLog) : Nat × Nat × Nat :=
  (log.blockNumber.toNat, log.txIndex.toNat, log.logIndex.toNat)

/-- A log and its row have one place. -/
theorem LogRow.key_of_ofLog {log : RawLog} {row : LogRow} (h : ofLog log = .ok row) :
    row.key = log.key := by
  obtain ⟨args, -, made⟩ := bind_eq_ok.mp h
  cases made
  rfl

/-- **A log store that was filled from nothing** has one row for each place. -/
theorem LogStore.Filled.count {logs : LogStore} {batches : List (List LogRow)}
    (filled : logs.Filled batches) :
    logs.count = (batches.flatten.map LogRow.key).dedup.length := by
  have inProcess : (batches.foldl OrderedLogs.insert .empty).count =
      (batches.flatten.map LogRow.key).dedup.length := by
    rw [OrderedLogs.insert_flatten, OrderedLogs.count_insert]
  rcases filled with rfl | rfl
  · rw [LogStore.foldl_insert_memory]
    exact inProcess
  · rw [LogStore.foldl_insert_tables]
    exact (mirrors_batches batches).count.trans inProcess

/-- Whether a log is accepted. -/
def RawLog.isAccepted (log : RawLog) : Bool := (LogRow.ofLog log).isOk

namespace Service

variable {logs : List RawLog} {rows : List LogRow}

theorem rowsOf_eq_ok_iff : rowsOf logs = .ok rows ↔
    List.Forall₂ (fun log row => LogRow.ofLog log = .ok row) logs rows := by
  simp only [rowsOf, mapM_eq_ok_iff, mapError_eq_ok]

/-- **Some logs have rows** exactly when all of them are accepted. -/
theorem isOk_rowsOf (logs : List RawLog) : (rowsOf logs).isOk = logs.all RawLog.isAccepted := by
  simp only [rowsOf, isOk_mapM, isOk_mapError]
  rfl

/-- Logs without rows fail with the bad word of one of them. -/
theorem error_of_rowsOf {e : Failure} (h : rowsOf logs = .error e) :
    ∃ log ∈ logs, ∃ bad : BadWord, LogRow.ofLog log = .error bad ∧ e = bad.failure := by
  obtain ⟨log, there, failed⟩ := error_of_mapM h
  cases made : LogRow.ofLog log with
  | ok row => rw [made] at failed; cases failed
  | error bad =>
    rw [made] at failed
    exact ⟨log, there, bad, made, (Except.error.inj failed).symm⟩

theorem keys_of_rowsOf (h : rowsOf logs = .ok rows) : rows.map LogRow.key = logs.map RawLog.key :=
  map_of_mapM (fun _ _ _ made => LogRow.key_of_ofLog (mapError_eq_ok.mp made)) h

/-! ## One request -/

/-- The logs that a request posts. -/
def postedLogs? (request : Request) : Option (List RawLog) :=
  if Request.route? request.path = some .logs ∧ request.method = "POST" then
    (document request (Json.Decoder.list RawLog.decoder)).toOption
  else none

/-- The logs that a request adds: all that it posts, or none if one of them is not accepted. -/
def addedLogs (request : Request) : List RawLog :=
  match postedLogs? request with
  | none => []
  | some logs => if logs.all RawLog.isAccepted then logs else []

/-- The rows that a request adds. -/
def addedRows (request : Request) : List LogRow :=
  match postedLogs? request with
  | none => []
  | some logs => (rowsOf logs).toOption.getD []

theorem keys_addedRows (request : Request) :
    (addedRows request).map LogRow.key = (addedLogs request).map RawLog.key := by
  unfold addedRows addedLogs
  cases postedLogs? request with
  | none => rfl
  | some logs =>
    cases made : rowsOf logs with
    | error e =>
      have rejected : logs.all RawLog.isAccepted = false := by rw [← isOk_rowsOf, made]; rfl
      simp only [made, rejected]
      rfl
    | ok rows =>
      have accepted : logs.all RawLog.isAccepted = true := by rw [← isOk_rowsOf, made]; rfl
      simp only [made, accepted]
      exact keys_of_rowsOf made

/-- The log store of the service. -/
def logStore (s : Service) : LogStore := s.workshop.world.logs

/-- The service with some rows put in. -/
def withRows (s : Service) (rows : List LogRow) : Service :=
  let w := s.workshop.world
  { s with workshop := { s.workshop with world := { w with logs := w.logs.insert rows } } }

/-- What is answered when some logs have been indexed. -/
def inserted (logs : List RawLog) : Response :=
  ⟨200, some (.object [("inserted", .nat logs.length)])⟩

variable {r : Reconciler} {s : Service} {request : Request}

theorem document_of_posted (posted : postedLogs? request = some logs) :
    (Request.route? request.path = some .logs ∧ request.method = "POST") ∧
      document request (Json.Decoder.list RawLog.decoder) = .ok logs := by
  unfold postedLogs? at posted
  split at posted
  case isFalse => cases posted
  case isTrue asked =>
    cases body : document request (Json.Decoder.list RawLog.decoder) with
    | error refusal => rw [body] at posted; cases posted
    | ok logs' =>
      rw [body] at posted
      obtain rfl : logs' = logs := Option.some.inj posted
      exact ⟨asked, rfl⟩

/-- A request that posts logs is answered by indexing them. -/
theorem answer_of_posted (posted : postedLogs? request = some logs) :
    s.answer r request = ((s.index r request).1, (s.index r request).2, []) := by
  obtain ⟨⟨route, method⟩, -⟩ := document_of_posted posted
  simp [answer, route, method, Request.Route.admits, dispatch]

theorem answer_of_rejected {e : Failure} (posted : postedLogs? request = some logs)
    (rejected : rowsOf logs = .error e) : s.answer r request = (.error 422 e.message, s, []) := by
  rw [answer_of_posted posted]
  simp only [index, (document_of_posted posted).2, rejected]

theorem answer_of_accepted (posted : postedLogs? request = some logs)
    (accepted : rowsOf logs = .ok rows) (inserts : r.faults.insertLogs = none) :
    s.answer r request = (inserted logs, s.withRows rows, []) := by
  have length : rows.length = logs.length := (rowsOf_eq_ok_iff.mp accepted).length_eq.symm
  rw [answer_of_posted posted]
  simp only [index, (document_of_posted posted).2, accepted, World.insertLogs, inserts, unlessFaulty,
    length]
  rfl

theorem answer_of_failing {e : Failure} (posted : postedLogs? request = some logs)
    (accepted : rowsOf logs = .ok rows) (fails : r.faults.insertLogs = some e) :
    s.answer r request = (.internal e, s, []) := by
  rw [answer_of_posted posted]
  simp only [index, (document_of_posted posted).2, accepted, World.insertLogs, fails, unlessFaulty]

/-! ## Other requests -/

theorem logStore_register (r : Reconciler) (s : Service) (request : Request) :
    (s.register r request).2.logStore = s.logStore := by
  unfold register
  split
  case h_1 => rfl
  case h_2 address _ =>
    -- A registration that saves an account changes nothing but the accounts.
    show (Registration.step r.faults (.lookUp r.faults address s.workshop.world)
      s.workshop.world).2.logs = s.workshop.world.logs
    unfold Registration.step
    split
    case h_2 =>
      cases saves : r.faults.saveAccount <;>
        simp [Registration.save, World.saveAccount, saves, unlessFaulty]
    all_goals rfl

theorem logStore_event (r : Reconciler) (s : Service) (key : Request.Parameter)
    (body : List UInt8) : (s.event r key body).2.1.logStore = s.logStore := by
  unfold event
  split
  case h_1 => rfl
  case h_2 key =>
    split
    case isTrue => rfl
    case isFalse =>
      split
      case isTrue => rfl
      case isFalse => exact r.logs_handle ⟨key, body⟩ s.workshop.world

/-- **A request that posts no logs** touches none. -/
theorem logStore_of_unposted (unposted : postedLogs? request = none) :
    (s.answer r request).2.1.logStore = s.logStore := by
  unfold answer
  split
  case h_1 => rfl
  case h_2 route asked =>
    split
    case isFalse => rfl
    case isTrue admitted =>
      cases route with
      | health | account _ | stream => rfl
      | accounts => exact logStore_register r s request
      | event key => exact logStore_event r s key request.body
      | logs =>
        -- Logs are asked for by the path and the method, so it is the body that holds none.
        rw [postedLogs?, if_pos ⟨asked, of_decide_eq_true admitted⟩] at unposted
        show (s.index r request).2.logStore = s.logStore
        unfold index
        cases body : document request (Json.Decoder.list RawLog.decoder) with
        | error refusal => rfl
        | ok batch => rw [body] at unposted; cases unposted

/-- **After any request** the logs are what they were, with the rows that the request adds put in. -/
theorem logStore_answer (inserts : r.faults.insertLogs = none) :
    (s.answer r request).2.1.logStore = s.logStore.insert (addedRows request) := by
  cases posted : postedLogs? request with
  | none =>
    rw [logStore_of_unposted posted, addedRows, posted]
    exact (LogStore.insert_nil _).symm
  | some batch =>
    cases made : rowsOf batch with
    | error e =>
      rw [answer_of_rejected posted made, addedRows, posted]
      simp only [made]
      exact (LogStore.insert_nil _).symm
    | ok rows =>
      rw [answer_of_accepted posted made inserts, addedRows, posted]
      simp only [made]
      rfl

/-! ## Requests in a row -/

/-- The service after some requests, each with what is true of the world at its time. -/
def answerAll (s : Service) (requests : List (Reconciler × Request)) : Service :=
  requests.foldl (fun s (r, request) => (s.answer r request).2.1) s

theorem logStore_answerAll {requests : List (Reconciler × Request)}
    (inserts : ∀ p ∈ requests, p.1.faults.insertLogs = none) :
    (s.answerAll requests).logStore =
      (requests.map fun p => addedRows p.2).foldl LogStore.insert s.logStore := by
  induction requests generalizing s with
  | nil => rfl
  | cons p rest ih =>
    rw [answerAll, List.foldl_cons, ← answerAll,
      ih fun q later => inserts q (List.mem_cons_of_mem p later),
      logStore_answer (inserts p List.mem_cons_self), List.map_cons, List.foldl_cons]

/-- Requests keep the order of the rows. -/
theorem ordered_answerAll {requests : List (Reconciler × Request)} (ordered : s.logStore.Ordered)
    (inserts : ∀ p ∈ requests, p.1.faults.insertLogs = none) :
    (s.answerAll requests).logStore.Ordered := by
  rw [logStore_answerAll inserts]
  exact List.foldlRecOn _ _ ordered fun _ kept rows _ => kept.insert rows

/-- How many places of the chain the logs have that some requests add. -/
def placesAdded (requests : List (Reconciler × Request)) : Nat :=
  ((requests.flatMap fun p => addedLogs p.2).map RawLog.key).dedup.length

theorem count_answerAll {requests : List (Reconciler × Request)}
    (empty : s.logStore.Filled []) (inserts : ∀ p ∈ requests, p.1.faults.insertLogs = none) :
    (s.answerAll requests).logStore.count = placesAdded requests := by
  have filled : (s.answerAll requests).logStore.Filled (requests.map fun p => addedRows p.2) := by
    rcases empty with same | same
    · exact .inl (by rw [logStore_answerAll inserts, same]; rfl)
    · exact .inr (by rw [logStore_answerAll inserts, same]; rfl)
  have keys : (requests.map fun p => addedRows p.2).flatten.map LogRow.key =
      (requests.flatMap fun p => addedLogs p.2).map RawLog.key := by
    rw [List.map_flatten, List.map_map, List.map_flatMap]
    exact congrArg List.flatten (List.map_congr_left fun p _ => keys_addedRows p.2)
  rw [filled.count, keys, placesAdded]

/-- A request that asks about the health of the service. -/
def AsksHealth (request : Request) : Prop :=
  Request.route? request.path = some .health ∧ request.method = "GET"

instance (request : Request) : Decidable (AsksHealth request) :=
  inferInstanceAs (Decidable (_ ∧ _))

/-- The number of rows that an answer tells. -/
def rowsTold? (response : Response) : Option Json := response.body.bind (·.get? "log_rows")

theorem answer_health (asks : AsksHealth request) (counts : r.faults.countLogs = none) :
    (s.answer r request).1.status = 200 ∧
      rowsTold? (s.answer r request).1 = some (.nat s.logStore.count) := by
  obtain ⟨route, method⟩ := asks
  have told : (s.answer r request).1 = s.health r := by
    simp [answer, route, method, Request.Route.admits, dispatch]
  rw [told]
  simp only [health, World.countLogs, counts, unlessFaulty]
  refine ⟨trivial, ?_⟩
  show (Json.object _).get? "log_rows" = _
  rw [Json.get?_object (by simp)]
  rfl

/-! ## The main theorem -/

/-- **What posting some logs comes to,** whatever the store holds. -/
structure IndexesWhole (r : Reconciler) (s : Service) (request : Request) (batch : List RawLog) :
    Prop where
  /-- If a log is not accepted the request is refused with such a log, and nothing has changed. -/
  rejected : batch.all RawLog.isAccepted = false →
    ∃ log ∈ batch, ∃ bad : BadWord, LogRow.ofLog log = .error bad ∧
      s.answer r request = (.error 422 bad.failure.message, s, [])
  /-- If the store fails nothing has changed either. -/
  failing : batch.all RawLog.isAccepted = true → ∀ e, r.faults.insertLogs = some e →
    s.answer r request = (.internal e, s, [])
  /-- Otherwise the rows of all logs go in and nothing else changes: under each identity stands the
  last row of the batch that has it, or what was there before. The same request again is answered
  alike and changes nothing. -/
  accepted : batch.all RawLog.isAccepted = true → r.faults.insertLogs = none →
    ∃ rows, List.Forall₂ (fun log row => LogRow.ofLog log = .ok row) batch rows ∧
      s.answer r request = (inserted batch, s.withRows rows, []) ∧
      (∀ id, (s.withRows rows).logStore.recordAt id =
        (lastOf id rows).elim (s.logStore.recordAt id) s.logStore.record) ∧
      ∀ later : Reconciler, later.faults.insertLogs = none →
        (s.withRows rows).answer later request = (inserted batch, s.withRows rows, [])

theorem exists_rowsOf {batch : List RawLog} (accepted : batch.all RawLog.isAccepted = true) :
    ∃ rows, rowsOf batch = .ok rows :=
  exists_of_isOk ((isOk_rowsOf batch).trans accepted)

theorem indexesWhole (ordered : s.logStore.Ordered) {batch : List RawLog}
    (posted : postedLogs? request = some batch) : IndexesWhole r s request batch where
  rejected := by
    intro rejected
    cases made : rowsOf batch with
    | ok rows => rw [← isOk_rowsOf, made] at rejected; cases rejected
    | error e =>
      obtain ⟨log, there, bad, failed, rfl⟩ := error_of_rowsOf made
      exact ⟨log, there, bad, failed, answer_of_rejected posted made⟩
  failing := by
    intro accepted e fails
    obtain ⟨rows, made⟩ := exists_rowsOf accepted
    exact answer_of_failing posted made fails
  accepted := by
    intro accepted inserts
    obtain ⟨rows, made⟩ := exists_rowsOf accepted
    have again : (s.workshop.world.logs.insert rows).insert rows = s.workshop.world.logs.insert rows :=
      LogStore.insert_insert ordered rows
    have twice : (s.withRows rows).withRows rows = s.withRows rows := by
      simp only [withRows, again]
    refine ⟨rows, rowsOf_eq_ok_iff.mp made, answer_of_accepted posted made inserts,
      LogStore.recordAt_insert ordered rows, fun later inserts => ?_⟩
    rw [answer_of_accepted posted made inserts, twice]

/-- **A list of logs is indexed as a whole,** whatever is stored and whatever was asked before, and one
identity is one place in the chain. After any requests to a service that began without logs, its health
tells how many places the accepted logs have. -/
theorem posted_logs_indexed (s : Service) (ordered : s.logStore.Ordered)
    (requests : List (Reconciler × Request))
    (inserts : ∀ p ∈ requests, p.1.faults.insertLogs = none) :
    (∀ r request batch, postedLogs? request = some batch →
        IndexesWhole r (s.answerAll requests) request batch) ∧
      (∀ a b : LogRow, a.id = b.id ↔ a.key = b.key) ∧
      (s.logStore.Filled [] → ∀ (r : Reconciler) (check : Request), AsksHealth check →
        r.faults.countLogs = none →
        ((s.answerAll requests).answer r check).1.status = 200 ∧
          rowsTold? ((s.answerAll requests).answer r check).1 =
            some (.nat (placesAdded requests))) := by
  refine ⟨fun r request batch => indexesWhole (ordered_answerAll ordered inserts),
    fun _ _ => id_eq_iff, ?_⟩
  intro empty r check asks counts
  rw [← count_answerAll empty inserts]
  exact answer_health asks counts

end Service

/-! ## One place twice in a list -/

namespace IndexedTwice

open TransferLedger.Text

/-- Nothing fails. -/
def calm : Reconciler := ⟨⟨"app"⟩, .transfer, ⟨fun _ => .ok 0, fun _ _ => .ok "0x"⟩, .none, 0⟩

/-- A service without logs or accounts. -/
def idle : Service where
  workshop := ⟨.idle 1 1, ⟨.tables .empty, .memory .empty, ⟨16, [], 0, []⟩⟩⟩
  stopped := false
  shutdown := false
  stream := none
  version := "1"
  startedAt := 0

/-- A log with one argument. -/
def log (number : UInt64) (word : String) : RawLog :=
  ⟨7, 0, number, false, "0xA", ["0xAB", word], ""⟩

/-- The document of such a log, in pieces. -/
def document (number word : String) : List String :=
  ["\x7b\"block_number\":7,", "\"tx_index\":0,", "\"log_index\":", number, ",\"address\":",
    "\"0xA\",", "\"topics\":", "[\"0xAB\",\"", word, "\"]\x7d"]

/-- A request that posts a list of documents. -/
def post (documents : List (List String)) : Request where
  method := "POST"
  path := "/logs".toList
  headers := [("Content-Type", "application/json")]
  body := ("[" :: (documents.intersperse [","]).flatten ++ ["]"]).flatMap Utf8.encode

/-- Two of these logs have one place. -/
def good : Request := post [document "1" "0x1", document "2" "0x2", document "1" "0x3"]

/-- The word of one log is no number. -/
def bad : Request := post [document "4" "0x4", document "5" "0xg"]

/-- A request for the health of the service. -/
def check : Request := ⟨"GET", "/health".toList, [], []⟩

theorem two_places_are_told :
    (idle.answer calm bad).1.status = 422 ∧
      (idle.answer calm good).1 = Service.inserted [log 1 "0x1", log 2 "0x2", log 1 "0x3"] ∧
      Service.rowsTold?
        ((idle.answerAll [(calm, bad), (calm, good), (calm, good)]).answer calm check).1 =
          some (.nat 2) := by
  have inserts : ∀ p ∈ [(calm, bad), (calm, good), (calm, good)], p.1.faults.insertLogs = none := by
    simp [calm, Faults.none]
  have whole : ∀ r request batch, Service.postedLogs? request = some batch →
      Service.IndexesWhole r idle request batch :=
    (Service.posted_logs_indexed idle trivial [] (by simp)).1
  obtain ⟨-, -, told⟩ := Service.posted_logs_indexed idle trivial _ inserts
  have posted : Service.postedLogs? good = some [log 1 "0x1", log 2 "0x2", log 1 "0x3"] ∧
      Service.postedLogs? bad = some [log 4 "0x4", log 5 "0xg"] := by
    decide +kernel
  have accepted : [log 1 "0x1", log 2 "0x2", log 1 "0x3"].all RawLog.isAccepted = true := by
    decide +kernel
  have rejected : [log 4 "0x4", log 5 "0xg"].all RawLog.isAccepted = false := by
    decide +kernel
  have places : Service.placesAdded [(calm, bad), (calm, good), (calm, good)] = 2 := by
    simp only [Service.placesAdded, Service.addedLogs, List.flatMap_cons, List.flatMap_nil, posted,
      accepted, rejected]
    decide +kernel
  refine ⟨?_, ?_, ?_⟩
  · obtain ⟨-, -, _, -, refused⟩ :=
      (whole calm bad _ posted.2).rejected rejected
    rw [refused]
    rfl
  · obtain ⟨_, -, answered, -⟩ := (whole calm good _ posted.1).accepted accepted rfl
    rw [answered]
  · rw [(told (.inr rfl) calm check (by decide) rfl).2, places]

end IndexedTwice

end TransferLedger
