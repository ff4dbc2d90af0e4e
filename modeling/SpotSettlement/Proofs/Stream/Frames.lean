import SpotSettlement.Proofs.Json.Nesting
import SpotSettlement.Stream.Codec

namespace SpotSettlement.StreamCodec

/-! # What the frames of a stream come to

Only the end of the listen key ends a session: a text that is no frame, or a frame that cannot be
read, is a recoverable error.  A frame wrapped in an object says what it says by itself, up to the
nesting that the reader goes along with.
-/

/-- The text is a value all of whose numbers have doubles. -/
def Reads (text : String) (frame : Json) : Prop :=
  Json.parse? text = some frame ∧ frame.finite = true

/-- The body of a frame: the object under `event` where there is one, otherwise the frame. -/
def HasBody (frame body : Json) : Prop :=
  frame.get? "event" = some body ∧ body.isObject = true ∨
    (∀ inner, frame.get? "event" = some inner → inner.isObject = false) ∧ body = frame

/-- The text is a frame with such a body. -/
def Says (text : String) (what : Json → Prop) : Prop :=
  ∃ frame body, Reads text frame ∧ HasBody frame body ∧ what body

def IsEvent (kind : String) (body : Json) : Prop := body.get? "e" = some (.string kind)

def IsTrade (body : Json) : Prop :=
  IsEvent "executionReport" body ∧ body.get? "x" = some (.string "TRADE")

/-- The body reports anything but a trade, and tells this status. -/
def TellsStatus (status : OrderStatus) (body : Json) : Prop :=
  IsEvent "executionReport" body ∧ (∃ type, body.get? "x" = some (.string type) ∧ type ≠ "TRADE") ∧
    ∃ word, body.get? "X" = some (.string word) ∧ OrderStatus.ofExchange? word = some status

/-- An object without an object under `event`. -/
def IsBare (frame : Json) : Prop :=
  frame.isObject = true ∧ ∀ inner, frame.get? "event" = some inner → inner.isObject = false

variable {exchange text outer : String} {value body envelope : Json}

theorem hasBody_unwrap (value : Json) : HasBody value (unwrap value) := by
  rw [unwrap]
  cases found : value.get? "event" with
  | none => exact .inr ⟨by simp [found], rfl⟩
  | some inner =>
      dsimp only
      split
      · rename_i object
        exact .inl ⟨found, object⟩
      · rename_i other
        refine .inr ⟨fun inner' found' => ?_, rfl⟩
        rw [found] at found'
        cases found'
        exact Bool.not_eq_true _ ▸ other

theorem HasBody.eq_unwrap (has : HasBody value body) : body = unwrap value := by
  rw [unwrap]
  obtain ⟨found, object⟩ | ⟨none, rfl⟩ := has
  · simp only [found, if_pos object]
  · cases found : body.get? "event" with
    | none => rfl
    | some inner =>
      dsimp only
      rw [if_neg (by simp [none inner found])]

theorem not_expired_of_report (report : IsEvent "executionReport" body) :
    ¬ IsEvent "listenKeyExpired" body := by
  rw [IsEvent] at report ⊢
  simp [report]

theorem string?_eq_some {value : Json} {word : String} (read : value.string? = some word) :
    value = .string word := by
  cases value <;> cases read
  rfl

theorem field?_string {key word : String} (read : value.field? key Json.string? = some word) :
    value.get? key = some (.string word) := by
  obtain ⟨found, get, read⟩ := Option.bind_eq_some_iff.mp read
  rw [get, string?_eq_some read]

theorem Frame.words_of_ofJson? {frame : Frame} (read : Frame.ofJson? value = some frame) :
    value.get? "x" = some (.string frame.executionType) ∧
      value.get? "X" = some (.string frame.orderStatus) := by
  rw [Frame.ofJson?] at read
  iterate 6 obtain ⟨_, -, read⟩ := Option.bind_eq_some_iff.mp read
  obtain ⟨type, readType, read⟩ := Option.bind_eq_some_iff.mp read
  obtain ⟨word, readWord, read⟩ := Option.bind_eq_some_iff.mp read
  iterate 9 obtain ⟨_, -, read⟩ := Option.bind_eq_some_iff.mp read
  cases read
  exact ⟨field?_string readType, field?_string readWord⟩

/-- A moment is read, or the frame is refused. -/
theorem timestamp_cases (millis : Int) :
    (∃ moment, timestamp millis = .ok moment) ∨
      ∃ details, timestamp millis = .error (.decode details) := by
  rw [timestamp]
  split
  · exact .inl ⟨_, rfl⟩
  · exact .inr ⟨_, rfl⟩

inductive Frame.Comes (frame : Frame) : Except StreamError StreamEvent → Prop where
  | ignored : Comes frame (.ok .ignored)
  | refused (details : String) : Comes frame (.error (.decode details))
  | execution (report : ExecutionReport) (trade : frame.executionType = "TRADE") :
      Comes frame (.ok (.execution report))
  | status (report : StatusReport) (noTrade : frame.executionType ≠ "TRADE")
      (known : OrderStatus.ofExchange? frame.orderStatus = some report.status) :
      Comes frame (.ok (.status report))

theorem Frame.toEvent_comes (frame : Frame) (exchange : String) :
    frame.Comes (frame.toEvent exchange) := by
  rw [Frame.toEvent]
  split
  · exact .refused _
  · split
    · rename_i trade
      rw [Frame.toExecution]
      obtain ⟨moment, eq⟩ | ⟨details, eq⟩ := timestamp_cases frame.transactionTime
      · rw [eq]
        exact .execution _ trade
      · rw [eq]
        exact .refused _
    · rename_i noTrade
      split
      · exact .ignored
      · rename_i status known
        rw [Frame.toStatus]
        obtain ⟨moment, eq⟩ | ⟨details, eq⟩ := timestamp_cases frame.eventTime
        · rw [eq]
          exact .status _ noTrade known
        · rw [eq]
          exact .refused _

inductive Outcome (body : Json) : Except StreamError StreamEvent → Prop where
  | ignored (other : ¬ IsEvent "listenKeyExpired" body) : Outcome body (.ok .ignored)
  | refused (details : String) (other : ¬ IsEvent "listenKeyExpired" body) :
      Outcome body (.error (.decode details))
  | execution (report : ExecutionReport) (trade : IsTrade body) :
      Outcome body (.ok (.execution report))
  | status (report : StatusReport) (tells : TellsStatus report.status body) :
      Outcome body (.ok (.status report))
  | expired (details : String) (named : IsEvent "listenKeyExpired" body) :
      Outcome body (.error (.transport details))

theorem ofJson_outcome (exchange : String) (value : Json) :
    Outcome (unwrap value) (ofJson exchange value) := by
  rw [ofJson]
  split
  · rename_i missing
    exact .ignored (by simp [IsEvent, missing])
  · rename_i kind named
    split
    · rename_i report
      subst report
      have other := not_expired_of_report named
      split
      · rename_i frame read
        obtain ⟨readType, readStatus⟩ := Frame.words_of_ofJson? read
        have comes := frame.toEvent_comes exchange
        generalize frame.toEvent exchange = result at comes
        cases comes with
        | ignored => exact .ignored other
        | refused details => exact .refused details other
        | execution report trade => exact .execution report ⟨named, trade ▸ readType⟩
        | status report noTrade known =>
            exact .status report ⟨named, ⟨_, readType, noTrade⟩, _, readStatus, known⟩
      · exact .refused _ other
    · split
      · rename_i expired
        exact .expired _ (expired ▸ named)
      · rename_i other
        exact .ignored (by simpa [IsEvent, named] using other)
  · rename_i strange named
    exact .refused _ fun expired => strange _ (Option.some.inj (named.symm.trans expired))

theorem Reads.decode (reads : Reads text value) (exchange : String) :
    decode exchange text = ofJson exchange value := by
  have read : (Json.parse? text).filter Json.finite = some value :=
    Option.filter_eq_some_iff.mpr reads
  rw [StreamCodec.decode, read]

theorem decode_of_not_reads (none : ∀ value, ¬ Reads text value) (exchange : String) :
    decode exchange text = .error (.decode "frame is not JSON") := by
  have unread : (Json.parse? text).filter Json.finite = .none :=
    Option.eq_none_iff_forall_ne_some.mpr fun value read =>
      none value (Option.filter_eq_some_iff.mp read)
  rw [StreamCodec.decode, unread]

theorem says_iff (reads : Reads text value) {what : Json → Prop} :
    Says text what ↔ what (unwrap value) := by
  constructor
  · rintro ⟨frame, body, again, has, holds⟩
    cases reads.1.symm.trans again.1
    rwa [← has.eq_unwrap]
  · exact fun holds => ⟨value, _, reads, hasBody_unwrap value, holds⟩

/-- What a text comes to, whether or not it is a frame. -/
theorem decode_outcome (exchange text : String) :
    (∃ value, Reads text value ∧ Outcome (unwrap value) (decode exchange text)) ∨
      (∀ what, ¬ Says text what) ∧
        decode exchange text = .error (.decode "frame is not JSON") := by
  by_cases readable : ∃ value, Reads text value
  · obtain ⟨value, reads⟩ := readable
    exact .inl ⟨value, reads, reads.decode exchange ▸ ofJson_outcome exchange value⟩
  · refine .inr ⟨?_, decode_of_not_reads (not_exists.mp readable) exchange⟩
    rintro what ⟨value, _, reads, -⟩
    exact readable ⟨value, reads⟩

/-- A frame with a body of its own says the same inside an object. -/
theorem decode_envelope (inside : envelope.get? "event" = some value) (bare : IsBare value)
    (wraps : Reads outer envelope) (reads : Reads text value) (exchange : String) :
    decode exchange outer = decode exchange text := by
  have same : unwrap envelope = unwrap value := by
    rw [← HasBody.eq_unwrap (.inl ⟨inside, bare.1⟩), ← HasBody.eq_unwrap (.inr ⟨bare.2, rfl⟩)]
  rw [wraps.decode, reads.decode, ofJson, ofJson, same]

theorem decode_pairText {idText : String} {id : Json} (readsId : Reads idText id)
    (shallow : id.nesting + 1 < Json.depthLimit) (reads : Reads text value) (bare : IsBare value)
    (exchange : String) :
    decode exchange (Json.pairText "subscriptionId" idText "event" text) =
      if value.nesting + 1 < Json.depthLimit then decode exchange text
      else .error (.decode "frame is not JSON") := by
  have literalId : "subscriptionId".toList.all Json.isLiteral = true := by decide
  have literalEvent : "event".toList.all Json.isLiteral = true := by decide
  have parsed := Json.parse?_pairText literalId literalEvent readsId.1 reads.1 shallow
  split
  · rename_i fits
    rw [if_pos fits] at parsed
    refine decode_envelope rfl bare ⟨parsed, ?_⟩ reads exchange
    simp [Json.finite, Json.finiteMembers, readsId.2, reads.2]
  · rename_i deep
    rw [if_neg deep] at parsed
    exact decode_of_not_reads (fun value reads => nomatch parsed.symm.trans reads.1) exchange

/-- The end of the listen key, told by a frame without an object under `event`. -/
theorem decode_expiry (reads : Reads text value) (bare : IsBare value)
    (expiry : IsEvent "listenKeyExpired" value) (exchange : String) :
    decode exchange text = .error (.transport "listen key expired") := by
  have alone : unwrap value = value := (HasBody.eq_unwrap (.inr ⟨bare.2, rfl⟩)).symm
  rw [reads.decode, ofJson, alone, expiry]
  rfl

/-- What is seen of a frame that tells the end of the listen key. -/
theorem exists_expiry {input : List Char} {depth : Nat}
    (seen : ((Json.value? (2 * input.length + 2) Json.depthLimit input).map fun (frame, rest) =>
      (rest.isEmpty && frame.finite && frame.isObject && (frame.get? "event").isNone,
        frame.nesting, (frame.get? "e").bind Json.string?)) =
      some (true, depth, some "listenKeyExpired")) :
    ∃ frame, Reads (String.ofList input) frame ∧ IsBare frame ∧
      IsEvent "listenKeyExpired" frame ∧ frame.nesting = depth := by
  obtain ⟨⟨frame, rest⟩, read, eq⟩ := Option.map_eq_some_iff.mp seen
  simp only [Prod.mk.injEq, Bool.and_eq_true, List.isEmpty_iff, Option.isNone_iff_eq_none] at eq
  obtain ⟨⟨⟨⟨rfl, finite⟩, object⟩, noEvent⟩, nesting, named⟩ := eq
  have parsed : Json.parse? (String.ofList input) = some frame :=
    Json.parse?_eq_some.mpr ⟨[], by rwa [String.toList_ofList], rfl⟩
  exact ⟨frame, ⟨parsed, finite⟩, ⟨object, by simp [noEvent]⟩, field?_string named, nesting⟩

/-- The characters of a frame that nests as deeply as the reader goes along with. -/
def deepestFrame : List Char :=
  "\x7b\"e\":\"listenKeyExpired\",\"x\":".toList ++ List.replicate 126 '[' ++
    List.replicate 126 ']' ++ ['\x7d']

/-- A frame that ends a session by itself, and that is not read inside an object any more. -/
theorem deepest_frame_is_not_read_inside :
    (∃ frame, Reads (String.ofList deepestFrame) frame ∧ IsBare frame) ∧ Reads "0" (.ofNat 0) ∧
      decode "binance" (String.ofList deepestFrame) =
        .error (.transport "listen key expired") ∧
      decode "binance"
        (Json.pairText "subscriptionId" "0" "event" (String.ofList deepestFrame)) =
          .error (.decode "frame is not JSON") := by
  obtain ⟨frame, reads, bare, expiry, nesting⟩ :=
    @exists_expiry deepestFrame 127 (by decide +kernel)
  have readsId : Reads "0" (.ofNat 0) := ⟨rfl, rfl⟩
  refine ⟨⟨frame, reads, bare⟩, readsId, decode_expiry reads bare expiry _, ?_⟩
  rw [decode_pairText readsId (by decide) reads bare, if_neg (by rw [nesting]; decide)]

/-- No frame but the end of the listen key ends a session.  Fills are told by reports of trades
only, statuses by other reports only; anything else is passed over or refused.  A frame that is read nests
less deeply than the limit, and inside an object it is taken like the frame by itself, if it can be
nested once more. -/
theorem only_expiry_ends_a_session (exchange : String) :
    (∀ text,
      ((∃ error, decode exchange text = .error error ∧ error.isRecoverable = false) ↔
        Says text (IsEvent "listenKeyExpired")) ∧
      (∀ report, decode exchange text = .ok (.execution report) → Says text IsTrade) ∧
      (∀ report, decode exchange text = .ok (.status report) →
        Says text (TellsStatus report.status)) ∧
      ((∃ report, decode exchange text = .ok (.execution report)) ∨
        (∃ report, decode exchange text = .ok (.status report)) ∨
        Says text (IsEvent "listenKeyExpired") ∨ decode exchange text = .ok .ignored ∨
        ∃ details, decode exchange text = .error (.decode details))) ∧
    (∀ outer text envelope frame, Reads outer envelope → Reads text frame →
      envelope.get? "event" = some frame → IsBare frame →
      decode exchange outer = decode exchange text) ∧
    (∀ text frame, Reads text frame → frame.nesting < Json.depthLimit) ∧
    ∀ idText text id frame, Reads idText id → id.nesting + 1 < Json.depthLimit →
      Reads text frame → IsBare frame →
      decode exchange (Json.pairText "subscriptionId" idText "event" text) =
        if frame.nesting + 1 < Json.depthLimit then decode exchange text
        else .error (.decode "frame is not JSON") := by
  refine ⟨fun text => ?_, ?_, fun _ _ reads => Json.nesting_lt_of_parse? reads.1, ?_⟩
  · obtain ⟨value, reads, outcome⟩ | ⟨silent, eq⟩ := decode_outcome exchange text
    · simp only [says_iff reads]
      generalize decode exchange text = result at outcome
      cases outcome with
      | ignored other => simp [other]
      | refused details other => simp [other, StreamError.isRecoverable]
      | execution report trade => simp [not_expired_of_report trade.1, trade]
      | status report tells => simp [not_expired_of_report tells.1, tells]
      | expired details named => simp [named, StreamError.isRecoverable]
    · simp [silent, eq, StreamError.isRecoverable]
  · exact fun _ _ _ _ wraps reads inside bare => decode_envelope inside bare wraps reads exchange
  · exact fun _ _ _ _ readsId shallow reads bare =>
      decode_pairText readsId shallow reads bare exchange

theorem sample_expiry_is_taken_inside :
    (∃ frame, Reads (String.ofList "\x7b\"e\":\"listenKeyExpired\"\x7d".toList) frame ∧
      IsBare frame ∧ frame.nesting + 1 < Json.depthLimit) ∧ Reads "0" (.ofNat 0) ∧
    decode "binance" (Json.pairText "subscriptionId" "0" "event"
      (String.ofList "\x7b\"e\":\"listenKeyExpired\"\x7d".toList)) =
        .error (.transport "listen key expired") := by
  obtain ⟨frame, reads, bare, expiry, nesting⟩ :=
    @exists_expiry "\x7b\"e\":\"listenKeyExpired\"\x7d".toList 1 (by decide +kernel)
  have readsId : Reads "0" (.ofNat 0) := ⟨rfl, rfl⟩
  have shallow : frame.nesting + 1 < Json.depthLimit := by
    rw [nesting]
    decide
  refine ⟨⟨frame, reads, bare, shallow⟩, readsId, ?_⟩
  rw [(only_expiry_ends_a_session "binance").2.2.2 "0" _ (.ofNat 0) _ readsId (by decide) reads bare,
    if_pos shallow]
  exact decode_expiry reads bare expiry _

end SpotSettlement.StreamCodec
