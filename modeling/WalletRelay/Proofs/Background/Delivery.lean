import Mathlib.Logic.Basic
import WalletRelay.Background.Delivery
import WalletRelay.Proofs.Text.Blank

/-!
# Deliveries one after another

Deliveries are numbered from one on, whatever becomes of them, and each is judged by its own reply alone
(`deliverAll_eq_mapIdx`).

A reply accepts the outcome, refuses it, or says nothing of it. `BackgroundReply.Accepts` and
`BackgroundReply.RefusesFor` tell which replies do so, and for which reason, without regard to the order in
which they are looked at. A body can be accepted for being blank only because no blank text is a JSON value
(`Json.parse_of_blank`): otherwise an error could hide in it.

`deliveries_numbered_and_judged` puts both together.
-/

namespace WalletRelay

/-! ### Blank texts -/

namespace Json

/-- A blank text holds no value: reading stops at the first character that is no gap. It is blank, and no
value begins with a blank. -/
theorem readValue_of_blank (leaves : Leaves) (depth : Nat) {cs : List Char}
    (blank : ∀ c ∈ cs, Text.isBlank c = true) :
    ∃ problem, readValue leaves depth cs = .error problem := by
  rw [readValue]
  cases ahead : skipGap cs with
  | nil => exact ⟨.truncated, rfl⟩
  | cons c rest =>
    have mem : c ∈ cs := by
      apply (List.dropWhile_suffix isGap).subset
      show c ∈ skipGap cs
      rw [ahead]
      exact List.mem_cons_self
    have unlike (d : Char) (visible : Text.isBlank d = false) : c ≠ d := by
      rintro rfl
      rw [blank c mem] at visible
      cases visible
    have digit : c.isDigit = false := by
      rw [Bool.eq_false_iff]
      intro digit
      exact unlike c (Text.isBlank_of_isDigit digit) rfl
    refine ⟨.malformed, ?_⟩
    simp only [unlike 'n' rfl, unlike 't' rfl, unlike 'f' rfl, unlike '"' rfl, unlike '-' rfl,
      unlike '[' rfl, unlike '\x7b' rfl, digit, Bool.false_eq_true, or_self, if_false]

/-- No blank text is a JSON value. -/
theorem parse_of_blank {s : String} (blank : ∀ c ∈ s.toList, Text.isBlank c = true) :
    ∃ problem, parse s = .error problem := by
  obtain ⟨problem, unread⟩ := readValue_of_blank keptLeaves depthLimit blank
  refine ⟨problem, ?_⟩
  rw [parse, unread]
  rfl

/-! ### Fields in order -/

theorem insertField_of_first {name first : String} {value v : Json} {rest : List (String × Json)}
    (before : name < first) :
    insertField name value ((first, v) :: rest) = (name, value) :: (first, v) :: rest := by
  rw [insertField, if_pos before]

/-- A field whose name comes after all others is put at the end. -/
theorem insertField_of_last (fields : List (String × Json)) {name : String} {value : Json}
    (last : ∀ k ∈ fields.map (·.1), ¬ name < k ∧ name ≠ k) :
    insertField name value fields = fields ++ [(name, value)] := by
  induction fields with
  | nil => rfl
  | cons f rest ih =>
    obtain ⟨⟨notBefore, other⟩, last⟩ := List.forall_mem_cons.1 last
    rw [insertField, if_neg notBefore, if_neg other, ih last]
    rfl

end Json

/-! ### What a reply says -/

/-- The value is an object that tells of an error. -/
def Json.Reports (reply error : Json) : Prop :=
  ∃ fields, reply = .object fields ∧ fields.lookup "error" = some error ∧ error ≠ .null

/-- To tell of an error is to have a field for it that is not null. -/
theorem Json.reports_iff {reply error : Json} :
    reply.Reports error ↔ reply.field? "error" = some error ∧ error ≠ .null := by
  constructor
  · rintro ⟨fields, rfl, found, given⟩
    exact ⟨found, given⟩
  · rintro ⟨found, given⟩
    cases reply with
    | object fields => exact ⟨fields, rfl, found, given⟩
    | _ => cases found

namespace BackgroundReply

/-- The reply has a status of success and this body. -/
def Succeeds (reply : BackgroundReply) (body : String) : Prop :=
  ∃ status, reply = .received status body ∧ 200 ≤ status ∧ status < 300

/-- The outcome is accepted: after success, the body is blank or a JSON value without an error. -/
def Accepts (reply : BackgroundReply) : Prop :=
  ∃ body, reply.Succeeds body ∧
    ((∀ c ∈ body.toList, Text.isBlank c = true) ∨
      ∃ j, Json.parse body = .ok j ∧ ∀ error, ¬ j.Reports error)

/-- The outcome is refused: there is no success, or the body tells of an error. -/
def Refuses : BackgroundReply → Prop
  | .dropped => False
  | .received status body =>
    ¬ (200 ≤ status ∧ status < 300) ∨ ∃ j error, Json.parse body = .ok j ∧ j.Reports error

/-- Why the outcome is refused: the status goes before the body. -/
inductive RefusesFor : BackgroundReply → String → Prop
  | status {status : Nat} {body : String} (failed : ¬ (200 ≤ status ∧ status < 300)) :
      RefusesFor (.received status body) ("HTTP " ++ Http.statusText status)
  | error {reply : BackgroundReply} {body : String} {j error : Json} (succeeds : reply.Succeeds body)
      (read : Json.parse body = .ok j) (reports : j.Reports error) : RefusesFor reply error.print

/-- A reply refuses the outcome exactly if it does so for some reason. -/
theorem exists_refusesFor_iff {reply : BackgroundReply} :
    (∃ reason, reply.RefusesFor reason) ↔ reply.Refuses := by
  constructor
  · rintro ⟨reason, refuses⟩
    cases refuses with
    | status failed => exact .inl failed
    | error succeeds read reports =>
      obtain ⟨status, rfl, -⟩ := succeeds
      exact .inr ⟨_, _, read, reports⟩
  · intro refuses
    cases reply with
    | dropped => exact refuses.elim
    | received status body =>
      -- The status goes before the body, so a body that tells of an error matters after success only.
      by_cases succeeds : 200 ≤ status ∧ status < 300
      · obtain failed | ⟨j, error, read, reports⟩ := refuses
        · exact absurd succeeds failed
        · exact ⟨_, .error ⟨status, rfl, succeeds⟩ read reports⟩
      · exact ⟨_, .status succeeds⟩

end BackgroundReply

namespace HttpBackground

variable {reply : BackgroundReply} {body reason : String} {j error : Json}

/-! ### Replies that are not looked into -/

theorem isSuccess_iff {status : Nat} :
    Http.isSuccess status = true ↔ 200 ≤ status ∧ status < 300 := by
  rw [Http.isSuccess, Bool.and_eq_true, decide_eq_true_eq, decide_eq_true_eq]

theorem judge_of_failed {status : Nat} (failed : ¬ (200 ≤ status ∧ status < 300)) (body : String) :
    judge (.received status body) = .error (.rejected ("HTTP " ++ Http.statusText status)) := by
  have unsuccessful : Http.isSuccess status = false := Bool.eq_false_iff.2 (mt isSuccess_iff.1 failed)
  rw [judge, unsuccessful]
  rfl

theorem judge_of_blank (succeeds : reply.Succeeds body)
    (blank : ∀ c ∈ body.toList, Text.isBlank c = true) : judge reply = .ok () := by
  obtain ⟨status, rfl, success⟩ := succeeds
  have blankText : Text.isBlankText body = true := List.all_eq_true.2 blank
  rw [judge, isSuccess_iff.2 success, blankText]
  rfl

/-! ### Replies with a body -/

/-- A reply of success with more than blanks in it is judged by its JSON value. -/
theorem judge_of_visible (succeeds : reply.Succeeds body)
    (visible : ¬ ∀ c ∈ body.toList, Text.isBlank c = true) :
    judge reply =
      match Json.parse body with
      | .error _ => .error (.transport "the reply is not JSON")
      | .ok j => judgeJson j := by
  obtain ⟨status, rfl, success⟩ := succeeds
  have visibleText : Text.isBlankText body = false :=
    Bool.eq_false_iff.2 (mt List.all_eq_true.1 visible)
  rw [judge, isSuccess_iff.2 success, visibleText]
  rfl

theorem judge_of_parse (succeeds : reply.Succeeds body) (read : Json.parse body = .ok j) :
    judge reply = judgeJson j := by
  have visible : ¬ ∀ c ∈ body.toList, Text.isBlank c = true := by
    intro blank
    obtain ⟨problem, unread⟩ := Json.parse_of_blank blank
    rw [read] at unread
    cases unread
  rw [judge_of_visible succeeds visible, read]

theorem judgeJson_of_reports (reports : j.Reports error) :
    judgeJson j = .error (.rejected error.print) := by
  obtain ⟨found, given⟩ := Json.reports_iff.1 reports
  have notNull : error.isNull = false := by
    cases error with
    | null => exact absurd rfl given
    | _ => rfl
  rw [judgeJson, found]
  simp only [notNull, Bool.false_eq_true, if_false]

theorem judgeJson_of_clear (clear : ∀ error, ¬ j.Reports error) : judgeJson j = .ok () := by
  rw [judgeJson]
  cases found : j.field? "error" with
  | none => rfl
  | some error =>
    have null : error = .null := not_not.1 fun given => clear error (Json.reports_iff.2 ⟨found, given⟩)
    rw [null]
    rfl

/-! ### Every reply -/

/-- An outcome that the reply accepts was delivered. -/
theorem judge_of_accepts (accepts : reply.Accepts) : judge reply = .ok () := by
  obtain ⟨body, succeeds, blank | ⟨j, read, clear⟩⟩ := accepts
  · exact judge_of_blank succeeds blank
  · rw [judge_of_parse succeeds read, judgeJson_of_clear clear]

/-- An outcome that the reply refuses was rejected, for this reason. -/
theorem judge_of_refusesFor (refuses : reply.RefusesFor reason) :
    judge reply = .error (.rejected reason) := by
  cases refuses with
  | status failed => exact judge_of_failed failed _
  | error succeeds read reports => rw [judge_of_parse succeeds read, judgeJson_of_reports reports]

/-- A reply that neither accepts nor refuses is none, or has a body that cannot be read. -/
theorem judge_of_neither (unaccepted : ¬ reply.Accepts) (unrefused : ¬ reply.Refuses) :
    ∃ detail, judge reply = .error (.transport detail) := by
  cases reply with
  | dropped => exact ⟨_, rfl⟩
  | received status body =>
    obtain ⟨success, silent⟩ := not_or.1 unrefused
    have succeeds : BackgroundReply.Succeeds (.received status body) body :=
      ⟨status, rfl, not_not.1 success⟩
    have visible : ¬ ∀ c ∈ body.toList, Text.isBlank c = true :=
      fun blank => unaccepted ⟨body, succeeds, .inl blank⟩
    rw [judge_of_visible succeeds visible]
    cases read : Json.parse body with
    | error problem => exact ⟨_, rfl⟩
    | ok j =>
      have clear : ∀ error, ¬ j.Reports error := fun error reports => silent ⟨j, error, read, reports⟩
      exact absurd ⟨body, succeeds, .inr ⟨j, read, clear⟩⟩ unaccepted

/-- A reply accepts, refuses for a reason, or does neither, and is judged accordingly. -/
theorem judge_cases (reply : BackgroundReply) :
    (reply.Accepts ∧ judge reply = .ok ()) ∨
      (∃ reason, reply.RefusesFor reason ∧ judge reply = .error (.rejected reason)) ∨
      (¬ reply.Accepts ∧ ¬ reply.Refuses ∧ ∃ detail, judge reply = .error (.transport detail)) := by
  by_cases accepts : reply.Accepts
  · exact .inl ⟨accepts, judge_of_accepts accepts⟩
  · by_cases refuses : reply.Refuses
    · obtain ⟨reason, refuses⟩ := BackgroundReply.exists_refusesFor_iff.2 refuses
      exact .inr (.inl ⟨reason, refuses, judge_of_refusesFor refuses⟩)
    · exact .inr (.inr ⟨accepts, refuses, judge_of_neither accepts refuses⟩)

/-- The delivery succeeds exactly if the reply accepts the outcome. -/
theorem judge_eq_ok_iff : judge reply = .ok () ↔ reply.Accepts := by
  refine ⟨?_, judge_of_accepts⟩
  intro ok
  obtain ⟨accepts, -⟩ | ⟨_, -, other⟩ | ⟨-, -, _, other⟩ := judge_cases reply
  · exact accepts
  · cases ok.symm.trans other
  · cases ok.symm.trans other

/-- The delivery is rejected for a reason exactly if the reply refuses for this reason. -/
theorem judge_eq_rejected_iff : judge reply = .error (.rejected reason) ↔ reply.RefusesFor reason := by
  refine ⟨?_, judge_of_refusesFor⟩
  intro rejected
  obtain ⟨-, other⟩ | ⟨_, refuses, same⟩ | ⟨-, -, _, other⟩ := judge_cases reply
  · cases rejected.symm.trans other
  · cases rejected.symm.trans same
    exact refuses
  · cases rejected.symm.trans other

/-- Nothing can be told of the outcome exactly if the reply neither accepts nor refuses it. -/
theorem judge_eq_transport_iff :
    (∃ detail, judge reply = .error (.transport detail)) ↔ ¬ reply.Accepts ∧ ¬ reply.Refuses := by
  constructor
  · rintro ⟨detail, unread⟩
    obtain ⟨-, other⟩ | ⟨_, -, other⟩ | ⟨unaccepted, unrefused, -⟩ := judge_cases reply
    · cases unread.symm.trans other
    · cases unread.symm.trans other
    · exact ⟨unaccepted, unrefused⟩
  · rintro ⟨unaccepted, unrefused⟩
    exact judge_of_neither unaccepted unrefused

/-! ### Runs -/

/-- The request with this number, which closes the promise of an outcome. -/
def closeRequest (number : Nat) (outcome : CallOutcome) : Json :=
  .ofFields [("jsonrpc", .string "2.0"), ("id", .ofNat (number % UInt64.size)),
    ("method", .string "closeBackgroundPromise"), ("params", .array [outcome.toJson])]

/-- What is sent is the request of its number; the number is cut off to a word. -/
theorem toJson_request (number : Nat) (outcome : CallOutcome) :
    BackgroundRequest.toJson ⟨.ofNat number, outcome⟩ = closeRequest number outcome := by
  have id : "id" < "jsonrpc" := by decide
  have method : ∀ name ∈ ["id", "jsonrpc"], ¬ "method" < name ∧ "method" ≠ name := by decide
  have params : ∀ name ∈ ["id", "jsonrpc", "method"], ¬ "params" < name ∧ "params" ≠ name := by
    decide
  have version (value : Json) : Json.insertField "jsonrpc" value [] = [("jsonrpc", value)] := rfl
  rw [BackgroundRequest.toJson, UInt64.toNat_ofNat', closeRequest, Json.ofFields]
  -- Fields stand in the order of their names, whatever order they are given in.
  simp only [List.foldl_cons, List.foldl_nil, version]
  rw [Json.insertField_of_first id, Json.insertField_of_last [("id", _), ("jsonrpc", _)] method]
  show _ = Json.object (Json.insertField "params" _ [("id", _), ("jsonrpc", _), ("method", _)])
  rw [Json.insertField_of_last [("id", _), ("jsonrpc", _), ("method", _)] params]
  rfl

/-- Each delivery has the number after the one before, and is judged by its own reply. -/
theorem deliverAll_eq_mapIdx (b : HttpBackground) (exchanges : List (CallOutcome × BackgroundReply)) :
    b.deliverAll exchanges =
      exchanges.mapIdx fun k e => ⟨⟨b.nextId + .ofNat k, e.1⟩, judge e.2⟩ := by
  induction exchanges generalizing b with
  | nil => rfl
  | cons e exchanges ih =>
    have first : b.nextId + .ofNat 0 = b.nextId := UInt64.add_zero b.nextId
    have later (k : Nat) : b.nextId + 1 + .ofNat k = b.nextId + .ofNat (k + 1) := by
      rw [UInt64.ofNat_add, UInt64.add_assoc, UInt64.add_comm 1]
      rfl
    show ⟨⟨b.nextId, e.1⟩, judge e.2⟩ :: deliverAll { b with nextId := b.nextId + 1 } exchanges = _
    -- The number counts on whatever the reply was.
    rw [ih, List.mapIdx_cons, first]
    simp only [later]

/-- A delivery with this number sends the one request that closes the promise of its outcome, and its result
is what its own reply says: the outcome was accepted, it was refused, or neither can be told. -/
structure Delivers (number : Nat) (outcome : CallOutcome) (reply : BackgroundReply) (d : Delivery) :
    Prop where
  request : d.request.toJson = closeRequest number outcome
  result : d.result = judge reply
  accepted : d.result = .ok () ↔ reply.Accepts
  rejected : (∃ reason, d.result = .error (.rejected reason)) ↔ reply.Refuses
  reason : ∀ reason, d.result = .error (.rejected reason) ↔ reply.RefusesFor reason
  undecided : (∃ detail, d.result = .error (.transport detail)) ↔ ¬ reply.Accepts ∧ ¬ reply.Refuses

theorem delivers_judge (number : Nat) (outcome : CallOutcome) (reply : BackgroundReply) :
    Delivers number outcome reply ⟨⟨.ofNat number, outcome⟩, judge reply⟩ where
  request := toJson_request number outcome
  result := rfl
  accepted := judge_eq_ok_iff
  rejected := (exists_congr fun _ => judge_eq_rejected_iff).trans BackgroundReply.exists_refusesFor_iff
  reason _ := judge_eq_rejected_iff
  undecided := judge_eq_transport_iff

/-- Of any number of deliveries to one background, each is made exactly once, in order, and the first has the
number one. Its result depends on its own reply alone. -/
theorem deliveries_numbered_and_judged (endpoint : Url)
    (exchanges : List (CallOutcome × BackgroundReply)) :
    ((start endpoint).deliverAll exchanges).length = exchanges.length ∧
    ∀ k outcome reply, exchanges[k]? = some (outcome, reply) →
      ∃ d, ((start endpoint).deliverAll exchanges)[k]? = some d ∧ Delivers (k + 1) outcome reply d := by
  rw [deliverAll_eq_mapIdx]
  refine ⟨List.length_mapIdx, ?_⟩
  intro k outcome reply given
  have number : (start endpoint).nextId + .ofNat k = .ofNat (k + 1) := by
    rw [UInt64.ofNat_add, UInt64.add_comm]
    rfl
  refine ⟨_, ?_, delivers_judge (k + 1) outcome reply⟩
  rw [List.getElem?_mapIdx, given, Option.map_some, number]

def localEndpoint : Url :=
  ⟨"http", some ⟨"", "127.0.0.1", some 8545⟩, "/rpc", none, none⟩

/-- The same outcome four times: the connection is lost, the status is one of failure, the body tells of an
error, and there is no body. -/
def unevenExchanges : List (CallOutcome × BackgroundReply) :=
  [.dropped, .received 503 "", .received 200 "\x7b\"error\":1\x7d", .received 204 ""].map
    (.reject "p1" "User rejected", ·)

/-- After two failures, the third delivery is rejected for what its own body tells, and the fourth succeeds.
-/
theorem deliveries_numbered_and_judged_uneven :
    (∃ d, ((start localEndpoint).deliverAll unevenExchanges)[2]? = some d ∧
      d.request.toJson = closeRequest 3 (.reject "p1" "User rejected") ∧
      d.result = .error (.rejected "1")) ∧
    ∃ d, ((start localEndpoint).deliverAll unevenExchanges)[3]? = some d ∧
      d.request.toJson = closeRequest 4 (.reject "p1" "User rejected") ∧ d.result = .ok () := by
  obtain ⟨-, delivered⟩ := deliveries_numbered_and_judged localEndpoint unevenExchanges
  refine ⟨?_, ?_⟩
  · obtain ⟨d, third, delivers⟩ := delivered 2 _ _ rfl
    -- The body is read by evaluation; what is needed of it is the text of its error.
    have told : ((Json.parse "\x7b\"error\":1\x7d").toOption.bind (Json.field? "error")).map Json.print =
        some "1" := by decide +kernel
    obtain ⟨error, found, printed⟩ := Option.map_eq_some_iff.1 told
    cases read : Json.parse "\x7b\"error\":1\x7d" with
    | error problem =>
      rw [read] at found
      cases found
    | ok j =>
      rw [read] at found
      have given : error ≠ .null := by
        rintro rfl
        exact absurd printed (by decide)
      have refuses := BackgroundReply.RefusesFor.error ⟨200, rfl, by decide, by decide⟩ read
        (Json.reports_iff.2 ⟨found, given⟩)
      rw [printed] at refuses
      exact ⟨d, third, delivers.request, (delivers.reason "1").2 refuses⟩
  · obtain ⟨d, fourth, delivers⟩ := delivered 3 _ _ rfl
    exact ⟨d, fourth, delivers.request,
      delivers.accepted.2 ⟨"", ⟨204, rfl, by decide, by decide⟩, .inl (by simp)⟩⟩

end HttpBackground
end WalletRelay
