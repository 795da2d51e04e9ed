import FlockOs.EngagementClient
import FlockOs.Lib.Runs

/-!
# What the offline queue delivers

An entry of the queue has no attendee key of its own, so the endpoint of a flush raises before it
asks the service for anything; and a call that is resolved drops its entries whatever the answer
was. The queue delivers exactly over the runs in which neither happens.
-/

namespace FlockOs.EngagementClient

open Lib Engagement EngagementApi

/-- The same session, ticket, attendee, score and feedback. -/
structure SamePlay (request direct : ParticipateRequest) : Prop where
  /-- Session. -/
  session : request.sessionId = direct.sessionId
  /-- Ticket. -/
  ticket : request.ticket = direct.ticket
  /-- Attendee. -/
  attendeeKey : request.attendeeKey = direct.attendeeKey
  /-- Score. -/
  score : request.score = direct.score
  /-- Feedback. -/
  feedback : request.feedback = direct.feedback

section Law

variable (roomCodes : String → Option String)

/-- A flush that reaches the server asks for what a direct call of each entry asks for. -/
def Delivers (browser : Browser) : ClientEvent → Prop
  | .settle index (.served clientIp hash _ _) => ∀ session entries rest,
    browser.pending[index]? = some (.batch session entries rest) →
      ∃ requests,
        flushAsks roomCodes clientIp { session := some session } (entries.map QueueEntry.item) =
          .ok requests ∧
        List.Forall₂ (fun entry request => ∃ direct,
          participateAsks roomCodes clientIp hash entry.args = .ok direct ∧ SamePlay request direct)
          entries requests
  | _ => True

/-- An entry that leaves the queue is one that the server has. -/
def Removes (browser next : Browser) : Prop :=
  ∀ entry ∈ browser.queue, (∀ other ∈ next.queue, other.nonce ≠ entry.nonce) →
    entry.nonce ∈ next.settled

/-- What the queue promises of an event. -/
structure QueueLaw (browser : Browser) (event : ClientEvent) : Prop where
  /-- Entries are delivered as they were played. -/
  delivers : Delivers roomCodes browser event
  /-- No entry is lost. -/
  removes : Removes browser (browser.step roomCodes event)

/-- The entries that are still queued under some nonces are ones that the server has. -/
def AllSettled (browser : Browser) (nonces : List String) : Prop :=
  ∀ entry ∈ browser.queue, entry.nonce ∈ nonces → entry.nonce ∈ browser.settled

/-- A call comes to an end without a loss: no flush reaches the server, a direct call that is
answered is accepted or a duplicate unless the server has its entry, and so for the entries of a
call that is made without a connection. -/
def CallMeets (browser : Browser) : Pending → Fate → Prop
  | call, .unavailable => AllSettled browser call.nonces
  | _, .lost => True
  | .single _, .served _ _ _ false => True
  | .single entry, .served clientIp hash answer true => ∀ request receipt,
    participateAsks roomCodes clientIp hash entry.args = .ok request →
      answer 0 request = .ok receipt → settles receipt = false →
        AllSettled browser [entry.nonce]
  | .batch _ _ _, .served _ _ _ _ => False

/-- When an event keeps the promise. -/
def QueueMeets (browser : Browser) : ClientEvent → Prop
  | .participate _ | .flushQueue _ => True
  | .settle index fate => ∀ call, browser.pending[index]? = some call →
    CallMeets roomCodes browser call fate

end Law

section Facts

variable {roomCodes : String → Option String} {browser : Browser}

/-- The endpoint of a flush raises on the first entry. -/
theorem requestsFromItems_entries (clientIp : Option String) (sessionId : String)
    (entry : QueueEntry) (rest : List QueueEntry) :
    requestsFromItems clientIp sessionId 0 ((entry :: rest).map QueueEntry.item) =
      .error (.validation "items[0].attendee_key is required") := rfl

/-- A flush of entries asks the service for nothing. -/
theorem flushAsks_entries (clientIp : Option String) (ref : SessionRef) {entries : List QueueEntry}
    (some : entries ≠ []) (requests : List ParticipateRequest) :
    flushAsks roomCodes clientIp ref (entries.map QueueEntry.item) ≠ .ok requests := by
  intro asked
  rw [flushAsks] at asked
  cases resolved : resolveSessionId roomCodes ref with
  | error raised =>
    rw [resolved] at asked
    cases asked
  | ok sessionId =>
    rw [resolved] at asked
    cases entries with
    | nil => exact some rfl
    | cons entry rest =>
      have same : requestsFromItems clientIp sessionId 0 ((entry :: rest).map QueueEntry.item) =
        .ok requests := asked
      rw [requestsFromItems_entries] at same
      cases same

/-- A queue that is left as it is loses nothing. -/
theorem removes_of_same {next : Browser} (same : next.queue = browser.queue) :
    Removes browser next := by
  intro entry there gone
  rw [same] at gone
  exact absurd rfl (gone entry there)

/-- An entry that is put keeps those under other nonces. -/
theorem removes_push (entry : QueueEntry) {next : Browser}
    (pushed : next.queue = queuePush entry browser.queue) : Removes browser next := by
  intro other there gone
  rw [pushed] at gone
  refine absurd rfl (?_ : other.nonce ≠ other.nonce)
  by_cases same : other.nonce = entry.nonce
  · rw [same] at gone
    exact absurd rfl (gone entry (List.mem_orderedInsert _ |>.mpr (.inl rfl)))
  · refine gone other (List.mem_orderedInsert _ |>.mpr (.inr ?_))
    exact List.mem_filter.mpr ⟨there, decide_eq_true same⟩

/-- Entries that are deleted are not lost exactly if the server has them. -/
theorem removes_delete {nonces : List String} {next : Browser}
    (deleted : next.queue = queueDelete nonces browser.queue) :
    Removes browser next ↔
      ∀ entry ∈ browser.queue, entry.nonce ∈ nonces → entry.nonce ∈ next.settled := by
  constructor
  · intro removes entry there named
    refine removes entry there fun other kept same => ?_
    rw [deleted] at kept
    have unnamed := of_decide_eq_true (List.mem_filter.mp kept).2
    rw [same] at unnamed
    exact unnamed named
  · intro known entry there gone
    by_cases named : entry.nonce ∈ nonces
    · exact known entry there named
    · refine absurd rfl (gone entry ?_)
      rw [deleted]
      exact List.mem_filter.mpr ⟨there, decide_eq_true named⟩

/-- The batches in flight have entries. -/
def NoEmptyBatch (browser : Browser) : Prop :=
  ∀ session entries rest, .batch session entries rest ∈ browser.pending → entries ≠ []

/-- The batch of entries is one of them. -/
theorem take_ne_nil {entries : List QueueEntry} (some : entries ≠ []) :
    entries.take flushBatch ≠ [] := by
  intro none
  cases List.take_eq_nil_iff.mp none with
  | inl zero => cases zero
  | inr empty => exact some empty

/-- A resolved call is followed by a batch of entries or by nothing. -/
theorem NoEmptyBatch.resolve (sound : NoEmptyBatch browser) (call : Pending) :
    NoEmptyBatch (browser.resolve call) := by
  intro session entries rest there
  cases List.mem_append.mp there with
  | inl before => exact sound session entries rest before
  | inr next =>
    cases call with
    | single entry => cases next
    | batch other first later =>
      cases later with
      | nil => cases next
      | cons head tail =>
        cases List.mem_singleton.mp next
        exact take_ne_nil (List.cons_ne_nil head tail)

/-- Every event keeps the batches in flight from being empty. -/
theorem NoEmptyBatch.step (sound : NoEmptyBatch browser) (event : ClientEvent) :
    NoEmptyBatch (browser.step roomCodes event) := by
  cases event with
  | participate entry =>
    intro session entries rest there
    cases List.mem_append.mp there with
    | inl before => exact sound session entries rest before
    | inr new => cases List.mem_singleton.mp new
  | flushQueue session =>
    rw [Browser.step]
    split
    · exact sound
    · next queued =>
      intro other entries rest there
      cases List.mem_append.mp there with
      | inl before => exact sound other entries rest before
      | inr new =>
        cases List.mem_singleton.mp new
        exact take_ne_nil queued
  | settle index fate =>
    rw [Browser.step]
    split
    · exact sound
    · next call waits =>
      have left : NoEmptyBatch { browser with pending := browser.pending.eraseIdx index } :=
        fun session entries rest there =>
          sound session entries rest (List.mem_of_mem_eraseIdx there)
      cases fate with
      | unavailable => exact left.resolve call
      | lost => exact left
      | served clientIp hash answer arrives =>
        rw [Browser.settle]
        split
        · exact left
        · cases arrives with
          | false => exact left
          | true => exact NoEmptyBatch.resolve left call

/-- A direct call answers with its own receipt. -/
theorem serve_single (clientIp : Option String) (hash : String)
    (answer : Nat → ParticipateRequest → Except Error ParticipationReceipt) (entry : QueueEntry) :
    serve roomCodes clientIp hash answer (.single entry) =
      (participateAsks roomCodes clientIp hash entry.args >>= answer 0).map
        fun receipt => [(entry.nonce, receipt)] := by
  rw [serve]
  cases participateAsks roomCodes clientIp hash entry.args with
  | error raised => rfl
  | ok request =>
    show (answer 0 request >>= fun receipt => pure [(entry.nonce, receipt)]) =
      (answer 0 request).map _
    cases answer 0 request <;> rfl

/-- The condition on a direct call that is answered, in terms of its receipt. -/
theorem callMeets_single (clientIp : Option String) (hash : String)
    (answer : Nat → ParticipateRequest → Except Error ParticipationReceipt) (entry : QueueEntry) :
    CallMeets roomCodes browser (.single entry) (.served clientIp hash answer true) ↔
      ∀ receipt, participateAsks roomCodes clientIp hash entry.args >>= answer 0 = .ok receipt →
        settles receipt = false → AllSettled browser [entry.nonce] := by
  constructor
  · intro meets receipt returned
    cases asked : participateAsks roomCodes clientIp hash entry.args with
    | error raised =>
      rw [asked] at returned
      cases returned
    | ok request =>
      rw [asked] at returned
      exact meets request receipt asked returned
  · intro meets request receipt asked returned
    refine meets receipt ?_
    rw [asked]
    exact returned

/-- A direct call that is resolved with a receipt loses nothing exactly if the receipt settles it
or the server has its entry. -/
theorem removes_receipt {entry : QueueEntry} (receipt : ParticipationReceipt) {next : Browser}
    (deleted : next.queue = queueDelete [entry.nonce] browser.queue)
    (known : next.settled = browser.settled ++
      ([(entry.nonce, receipt)].filter fun row => settles row.2).map (·.1)) :
    Removes browser next ↔ (settles receipt = false → AllSettled browser [entry.nonce]) := by
  refine (removes_delete deleted).trans ?_
  rw [known]
  cases settled : settles receipt with
  | false =>
    have none : ([(entry.nonce, receipt)].filter fun row => settles row.2) = [] := by
      simp [settled]
    rw [none, List.map_nil, List.append_nil]
    exact ⟨fun all _ => all, fun all => all rfl⟩
  | true =>
    have one : ([(entry.nonce, receipt)].filter fun row => settles row.2) =
        [(entry.nonce, receipt)] := by
      simp [settled]
    rw [one]
    refine iff_of_true (fun _ _ own => List.mem_append.mpr (.inr own)) fun refused => ?_
    cases refused

/-- A direct call that reaches the server. -/
theorem removes_single (erased : List Pending) (clientIp : Option String) (hash : String)
    (answer : Nat → ParticipateRequest → Except Error ParticipationReceipt) (entry : QueueEntry)
    (arrives : Bool) :
    Removes browser (Browser.settle roomCodes { browser with pending := erased } (.single entry)
        (.served clientIp hash answer arrives)) ↔
      CallMeets roomCodes browser (.single entry) (.served clientIp hash answer arrives) := by
  rw [Browser.settle, serve_single]
  cases arrives with
  | false =>
    refine iff_of_true ?_ trivial
    cases participateAsks roomCodes clientIp hash entry.args >>= answer 0 with
    | error raised => exact removes_of_same rfl
    | ok receipt => exact removes_of_same rfl
  | true =>
    rw [callMeets_single]
    cases participateAsks roomCodes clientIp hash entry.args >>= answer 0 with
    | error raised => exact iff_of_true (removes_of_same rfl) fun _ returned => by cases returned
    | ok receipt =>
      refine (removes_receipt receipt rfl rfl).trans ⟨fun meets _ returned => ?_, ?_⟩
      · cases returned
        exact meets
      · exact fun meets => meets receipt rfl

variable (roomCodes) in
/-- The end of a call is without a loss exactly if it meets the condition. -/
theorem removes_settle {index : Nat} {call : Pending} (sound : NoEmptyBatch browser)
    (waits : browser.pending[index]? = some call) (fate : Fate) :
    (Delivers roomCodes browser (.settle index fate) ∧
        Removes browser (browser.step roomCodes (.settle index fate))) ↔
      CallMeets roomCodes browser call fate := by
  rw [Browser.step, waits]
  cases fate with
  | unavailable => exact (and_iff_right trivial).trans (removes_delete rfl)
  | lost => exact iff_of_true ⟨trivial, removes_of_same rfl⟩ (by cases call <;> trivial)
  | served clientIp hash answer arrives =>
    cases call with
    | batch session entries rest =>
      refine iff_of_false (fun both => ?_) (by cases arrives <;> exact id)
      have held := sound session entries rest (List.mem_of_getElem? waits)
      obtain ⟨requests, asked, _⟩ := both.1 session entries rest waits
      exact flushAsks_entries clientIp _ held requests asked
    | single entry =>
      have delivers : Delivers roomCodes browser
          (.settle index (.served clientIp hash answer arrives)) := by
        intro session entries rest batch
        rw [waits] at batch
        cases batch
      exact (and_iff_right delivers).trans (removes_single _ clientIp hash answer entry arrives)

variable (roomCodes) in
/-- An event keeps the promise exactly if it meets the condition. -/
theorem queueLaw_iff (sound : NoEmptyBatch browser) (event : ClientEvent) :
    QueueLaw roomCodes browser event ↔ QueueMeets roomCodes browser event := by
  cases event with
  | participate entry => exact iff_of_true ⟨trivial, removes_push entry rfl⟩ trivial
  | flushQueue session =>
    refine iff_of_true ⟨trivial, removes_of_same ?_⟩ trivial
    rw [Browser.step]
    split
    · rfl
    · rfl
  | settle index fate =>
    cases waits : browser.pending[index]? with
    | none =>
      refine iff_of_true ⟨?_, removes_of_same ?_⟩ ?_
      · cases fate with
        | unavailable | lost => trivial
        | served =>
          intro session entries rest batch
          rw [waits] at batch
          cases batch
      · rw [Browser.step, waits]
      · intro call same
        rw [waits] at same
        cases same
    | some call =>
      have both := removes_settle roomCodes sound waits fate
      constructor
      · intro law other same
        rw [waits] at same
        cases same
        exact both.mp ⟨law.delivers, law.removes⟩
      · intro meets
        obtain ⟨delivers, removes⟩ := both.mpr (meets call waits)
        exact ⟨delivers, removes⟩

end Facts

/-- In a browser with any queue, over every sequence of plays, flushes and ends of calls, the queue
delivers what was played and loses nothing exactly if no flush reaches the server, and no call that
is resolved without an acceptance drops an entry that the server does not have. -/
theorem offline_queue_iff (roomCodes : String → Option String) (queue : List QueueEntry)
    (events : List ClientEvent) :
    EveryCall (Browser.step roomCodes) (QueueLaw roomCodes) { queue := queue } events ↔
      EveryCall (Browser.step roomCodes) (QueueMeets roomCodes) { queue := queue } events := by
  have every : EveryCall (Browser.step roomCodes) (fun _ _ => True) { queue := queue } events :=
    everyCall_of_forall _ fun _ _ => trivial
  refine everyCall_congr NoEmptyBatch (fun _ event sound => sound.step event)
    (fun _ event sound _ => queueLaw_iff roomCodes sound event) ?_ every
  intro session entries rest there
  cases there

/-- Ann's tap while her phone is offline. -/
def tapEntry : QueueEntry where
  nonce := "n-1"
  session := "ENG-1"
  kind := "tap_burst"
  payload := [("round", .int 1), ("hit", .int 3)]
  ticket := some
    { sessionId := some "ENG-1"
      attendeeKey := some "ann"
      memberId := some "ann"
      deviceFingerprint := some "phone"
      issuedAt := some 100
      expiresAt := some 3700
      signature := some "signed" }
  clientSubmittedAt := 101
  clientClock := 101000

/-- The server accepts everything. -/
def acceptsAll (_ : Nat) (request : ParticipateRequest) : Except Error ParticipationReceipt :=
  .ok ⟨true, request.attendeeKey, none, some 102, none⟩

/-- The server finds every request too fast. -/
def throttlesAll (_ : Nat) (request : ParticipateRequest) : Except Error ParticipationReceipt :=
  .ok ⟨false, request.attendeeKey, some .throttled, none, none⟩

/-- The tap is lost on its way, and flushed when the phone is back. -/
def flushedTap : List ClientEvent :=
  [.participate tapEntry, .settle 0 .lost, .flushQueue "ENG-1",
    .settle 0 (.served none "hash" acceptsAll true)]

/-- The tap reaches the server at once and is throttled. -/
def throttledTap : List ClientEvent :=
  [.participate tapEntry, .settle 0 (.served none "hash" throttlesAll true)]

/-- The server that accepts everything gets nothing from the flush, and the tap that was throttled
is dropped from the queue. -/
theorem tap_never_delivered :
    ¬ EveryCall (Browser.step fun _ => none) (QueueLaw fun _ => none) {} flushedTap ∧
      ¬ EveryCall (Browser.step fun _ => none) (QueueLaw fun _ => none) {} throttledTap := by
  constructor
  · intro every
    have law := every.2.2.2.1
    have ⟨requests, asked, _⟩ := law.delivers "ENG-1" [tapEntry] [] (by rfl)
    have entries : [tapEntry] ≠ [] := List.cons_ne_nil _ _
    exact absurd asked (flushAsks_entries none _ entries requests)
  · intro every
    have law := every.2.1
    have gone : (Browser.step (fun _ => none) (Browser.step (fun _ => none) {}
        (.participate tapEntry)) (.settle 0 (.served none "hash" throttlesAll true))).queue = [] ∧
      (Browser.step (fun _ => none) (Browser.step (fun _ => none) {}
        (.participate tapEntry)) (.settle 0 (.served none "hash" throttlesAll true))).settled =
          [] := by
      decide +kernel
    have lost := law.removes tapEntry (by decide +kernel) fun other there => by
      rw [gone.1] at there
      cases there
    rw [gone.2] at lost
    cases lost

end FlockOs.EngagementClient
