import AtlasAgent.BoundedRetry
import AtlasAgent.TextFields
import Mathlib.Data.List.AList

/-!
# HttpClient::perform

A request is repeated at most twice, after a failure that came before the time
was up or after a response that says to try again. Every request is logged as
an entry of its own. What curl meets is given for each attempt; the meter ids
of the registry are a parameter with what the library says of their tags.
-/

namespace AtlasAgent.HttpClient

open BoundedRetry TextFields

/-- A duration in nanoseconds. -/
abbrev Duration := ℤ

/-- ToInt64Milliseconds. -/
def toInt64Milliseconds (duration : Duration) : ℤ := duration.tdiv 1000000

/-- HttpClientConfig. -/
structure HttpClientConfig where
  connectTimeout : Duration
  readTimeout : Duration

/-- The CURLcodes that perform tells apart, but for CURLE_OK. -/
inductive CurlError
  | couldntConnect
  | operationTimedout
  | other (code : ℕ)
  deriving DecidableEq

/-- What a request comes to. -/
inductive CurlResult
  /-- It has failed after some time. -/
  | failed (error : CurlError) (elapsed : Duration)
  | completed (httpCode : ℤ)
  deriving DecidableEq

/-- HttpHeaders. -/
abbrev HttpHeaders := AList fun _ : Token => Token

/-- What an attempt meets. -/
structure Attempt where
  result : CurlResult
  /-- What has been captured of the response. -/
  rawBody : Token
  headers : HttpHeaders
  /-- The time from the start of the log entry until it is logged. -/
  duration : Duration

/-- HttpResponse. -/
structure HttpResponse where
  status : ℤ
  rawBody : Token
  headers : HttpHeaders

/-- What a CurlHandle is set to. -/
structure CurlRequest where
  timeout : ℤ
  connectTimeout : ℤ
  url : Token
  headers : List Token
  /-- The payload of a POST. -/
  payload : Option Token
  customRequest : Option Token
  deriving DecidableEq

/-- MeterId, which is not part of the repository. -/
structure MeterIds (Id : Type) where
  make : Token → List (Token×Token) → Id
  withTag : Token → Token → Id → Id
  /-- The value of a tag. -/
  tag : Token → Id → Option Token
  /-- WithTag sets one tag and leaves the others. -/
  tag_withTag : ∀ key value id other,
    tag other (withTag key value id)=if other=key then some value else tag other id

/-- What perform does, the messages of the logger left out. -/
inductive HttpEvent (Id : Type)
  | request (request : CurlRequest)
  /-- The percent timer of the id records a duration. -/
  | record (id : Id) (duration : Duration)
  | sleep (milliseconds : ℕ)

/-- path_from. The text that begins with the colon is measured as a C string. -/
def pathFrom (url : Token) : Token :=
  let protocol := url.dropWhile (· ≠ ':')
  if url=[] then ['/']
  else if protocol=[] then url
  else if (protocol.takeWhile (· ≠ '\x00')).length<3 then url
  else
    let path := (protocol.drop 3).dropWhile (· ≠ '/')
    if path=[] then ['/'] else path.takeWhile (· ≠ '?')

section LogEntry

variable {Id : Type} (ids : MeterIds Id)

/-- The id of a new LogEntry. -/
def newEntry (method url : Token) : Id :=
  ids.make "ipc.client.call".toList [("owner".toList,"spectator-cpp".toList),
    ("ipc.endpoint".toList,pathFrom url),("http.method".toList,method),
    ("http.status".toList,"-1".toList)]

/-- LogEntry::set_status_code. -/
def setStatusCode (code : ℤ) (id : Id) : Id :=
  ids.withTag "http.status".toList (toString code).toList id

/-- LogEntry::attempt. -/
def attemptText : ℕ → Token
  | 0 => "initial".toList
  | 1 => "second".toList
  | _ => "third_up".toList

/-- LogEntry::set_attempt. -/
def setAttempt (attemptNumber : ℕ) (isFinal : Bool) (id : Id) : Id :=
  ids.withTag "ipc.attempt.final".toList (if isFinal then "true".toList else "false".toList)
    (ids.withTag "ipc.attempt".toList (attemptText attemptNumber) id)

/-- LogEntry::set_error. -/
def setError (error : Token) (id : Id) : Id :=
  ids.withTag "ipc.status".toList error (ids.withTag "ipc.result".toList "failure".toList id)

/-- LogEntry::set_success. -/
def setSuccess (id : Id) : Id :=
  ids.withTag "ipc.result".toList "success".toList
    (ids.withTag "ipc.status".toList "success".toList id)

end LogEntry

/-- is_retryable_error. -/
def isRetryableError (httpCode : ℤ) : Bool := httpCode=429 || httpCode.tdiv 100=5

/-- The text that a failure is logged with. -/
def errorText : CurlError → Token
  | .couldntConnect => "connection_error".toList
  | .operationTimedout => "timeout".toList
  | .other _ => "unknown".toList

/-- How the CurlHandle is set up. -/
def setUp (config : HttpClientConfig) (method url : Token) (headers : List Token)
    (payload : Token) : CurlRequest where
  timeout := toInt64Milliseconds (config.connectTimeout+config.readTimeout)
  connectTimeout := toInt64Milliseconds config.connectTimeout
  url := url
  headers := headers
  payload := if method="POST".toList then some payload else none
  customRequest :=
    if method="POST".toList ∨ method="GET".toList then none else some method

section Perform

variable {Id : Type} (ids : MeterIds Id) (config : HttpClientConfig) (method url : Token)
  (headers : List Token) (payload : Token) (attempts : ℕ → Attempt)

/-- HttpClient::perform. -/
def perform (attemptNumber : ℕ) : List (HttpEvent Id)×HttpResponse :=
  let entry := newEntry ids method url
  let request := .request (setUp config method url headers payload)
  let attempt := attempts attemptNumber
  let totalTimeout := config.connectTimeout+config.readTimeout
  match attempt.result with
  | .failed error elapsed =>
    let entry := setError ids (errorText error) entry
    if elapsed<totalTimeout ∧ attemptNumber<2 then
      let next := perform (attemptNumber+1)
      ([request,.record (setAttempt ids attemptNumber false entry) attempt.duration]++next.1,next.2)
    else
      let entry := setStatusCode ids (-1) entry
      ([request,.record (setAttempt ids attemptNumber true entry) attempt.duration],
        ⟨400,attempt.rawBody,attempt.headers⟩)
  | .completed httpCode =>
    let entry := setStatusCode ids httpCode entry
    let entry :=
      if httpCode.tdiv 100=2 then setSuccess ids entry
      else setError ids "http_error".toList entry
    if isRetryableError httpCode=true ∧ attemptNumber<2 then
      let next := perform (attemptNumber+1)
      ([request,.record (setAttempt ids attemptNumber false entry) attempt.duration,
        .sleep (200<<<attemptNumber)]++next.1,next.2)
    else
      ([request,.record (setAttempt ids attemptNumber true entry) attempt.duration],
        ⟨httpCode,attempt.rawBody,attempt.headers⟩)
termination_by 2-attemptNumber

/-- Whether an attempt asks for another one: it has failed before the time was
up, or the response is 429 or of the fives. -/
def WantsRetry (attempt : Attempt) : Prop :=
  match attempt.result with
  | .failed _ elapsed => elapsed < config.connectTimeout+config.readTimeout
  | .completed httpCode => httpCode=429 ∨ 500 ≤ httpCode ∧ httpCode<600

instance : DecidablePred (WantsRetry config) := fun attempt =>
  match h : attempt.result with
  | .failed _ elapsed =>
    decidable_of_iff (elapsed < config.connectTimeout+config.readTimeout) (by rw [WantsRetry,h])
  | .completed httpCode =>
    decidable_of_iff (httpCode=429 ∨ 500 ≤ httpCode ∧ httpCode<600) (by rw [WantsRetry,h])

/-- Whether an attempt has completed with a code of the twos. -/
def Succeeds (attempt : Attempt) : Prop :=
  match attempt.result with
  | .failed _ _ => False
  | .completed httpCode => 200 ≤ httpCode ∧ httpCode<300

instance : DecidablePred Succeeds := fun attempt =>
  match h : attempt.result with
  | .failed _ _ => .isFalse (by rw [Succeeds,h]; exact id)
  | .completed httpCode =>
    decidable_of_iff (200 ≤ httpCode ∧ httpCode<300) (by rw [Succeeds,h])

/-- What is returned of an attempt. -/
def response (attempt : Attempt) : HttpResponse where
  status :=
    match attempt.result with
    | .failed _ _ => 400
    | .completed httpCode => httpCode
  rawBody := attempt.rawBody
  headers := attempt.headers

/-- The id that an attempt is logged with. -/
def loggedId (attempt : Attempt) (attemptNumber : ℕ) (isFinal : Bool) : Id :=
  let entry := newEntry ids method url
  setAttempt ids attemptNumber isFinal
    (match attempt.result with
    | .failed error _ =>
      let entry := setError ids (errorText error) entry
      if isFinal then setStatusCode ids (-1) entry else entry
    | .completed httpCode =>
      let entry := setStatusCode ids httpCode entry
      if httpCode.tdiv 100=2 then setSuccess ids entry
      else setError ids "http_error".toList entry)

/-- What an attempt does; before another one a completed attempt sleeps. -/
def attemptEvents (attempt : Attempt) (attemptNumber : ℕ) (isFinal : Bool) :
    List (HttpEvent Id) :=
  [.request (setUp config method url headers payload),
    .record (loggedId ids method url attempt attemptNumber isFinal) attempt.duration]++
    match attempt.result with
    | .failed _ _ => []
    | .completed _ => if isFinal then [] else [.sleep (200<<<attemptNumber)]

/-- The quotients of the source say which hundred a code is in. -/
theorem tdiv_hundred_iff (httpCode : ℤ) {hundreds : ℤ} (h : 0<hundreds) :
    httpCode.tdiv 100=hundreds ↔ 100*hundreds ≤ httpCode ∧ httpCode<100*hundreds+100 := by
  rcases Int.le_total 0 httpCode with hcode|hcode
  · rw [Int.tdiv_eq_ediv_of_nonneg hcode]
    omega
  · have hneg : httpCode.tdiv 100=-(-httpCode/100) := by
      rw [←Int.tdiv_eq_ediv_of_nonneg (Int.neg_nonneg_of_nonpos hcode),Int.neg_tdiv,Int.neg_neg]
    omega

theorem isRetryableError_iff (httpCode : ℤ) :
    isRetryableError httpCode=true ↔ httpCode=429 ∨ 500 ≤ httpCode ∧ httpCode<600 := by
  rw [isRetryableError,Bool.or_eq_true,decide_eq_true_eq,decide_eq_true_eq,
    tdiv_hundred_iff httpCode (by decide)]
  rfl

/-- perform makes one attempt, and another one after it if the attempt asks for
it and two have not been made yet. -/
theorem perform_eq (attemptNumber : ℕ) :
    perform ids config method url headers payload attempts attemptNumber=
      if WantsRetry config (attempts attemptNumber) ∧ attemptNumber<2 then
        let next := perform ids config method url headers payload attempts (attemptNumber+1)
        (attemptEvents ids config method url headers payload (attempts attemptNumber)
          attemptNumber false++next.1,next.2)
      else (attemptEvents ids config method url headers payload (attempts attemptNumber)
        attemptNumber true,response (attempts attemptNumber)) := by
  rw [perform]
  cases hresult : (attempts attemptNumber).result with
  | failed error elapsed =>
    have hwants : WantsRetry config (attempts attemptNumber) ↔
        elapsed < config.connectTimeout+config.readTimeout := by rw [WantsRetry,hresult]
    simp only [hwants]
    by_cases hretry : elapsed < config.connectTimeout+config.readTimeout ∧ attemptNumber<2
    · rw [if_pos hretry,if_pos hretry,attemptEvents,loggedId,hresult]
      rfl
    · rw [if_neg hretry,if_neg hretry,attemptEvents,loggedId,response,hresult]
      rfl
  | completed httpCode =>
    have hwants : WantsRetry config (attempts attemptNumber) ↔ isRetryableError httpCode=true := by
      rw [WantsRetry,hresult,isRetryableError_iff]
    simp only [hwants]
    by_cases hretry : isRetryableError httpCode=true ∧ attemptNumber<2
    · rw [if_pos hretry,if_pos hretry,attemptEvents,loggedId,hresult]
      rfl
    · rw [if_neg hretry,if_neg hretry,attemptEvents,loggedId,response,hresult]
      rfl

/-- The requests among the events. -/
def requests (events : List (HttpEvent Id)) : List CurlRequest :=
  events.filterMap fun event =>
    match event with
    | .request request => some request
    | _ => none

/-- The ids that entries are logged with. -/
def recorded (events : List (HttpEvent Id)) : List Id :=
  events.filterMap fun event =>
    match event with
    | .record id _ => some id
    | _ => none

/-- An attempt sends one request and logs one entry. -/
theorem requests_attemptEvents (attempt : Attempt) (attemptNumber : ℕ) (isFinal : Bool) :
    let events := attemptEvents ids config method url headers payload attempt attemptNumber isFinal
    requests events=[setUp config method url headers payload] ∧
      recorded events=[loggedId ids method url attempt attemptNumber isFinal] := by
  dsimp only [attemptEvents]
  cases attempt.result with
  | failed error elapsed => exact ⟨rfl,rfl⟩
  | completed httpCode => cases isFinal <;> exact ⟨rfl,rfl⟩

/-- The attempts that perform makes, with what it sends, logs and returns. -/
theorem perform_made (left attemptNumber : ℕ) (h : attemptNumber+left=2) :
    let wants := fun k => WantsRetry config (attempts k)
    let performed := perform ids config method url headers payload attempts attemptNumber
    requests performed.1=
      (made wants left attemptNumber).map (fun _ => setUp config method url headers payload) ∧
    recorded performed.1=(made wants left attemptNumber).map (fun k =>
      loggedId ids method url (attempts k) k (decide (k=lastAttempt wants left attemptNumber))) ∧
    performed.2=response (attempts (lastAttempt wants left attemptNumber)) := by
  have hevents := requests_attemptEvents ids config method url headers payload
    (attempts attemptNumber) attemptNumber
  dsimp only at hevents ⊢
  induction left generalizing attemptNumber with
  | zero =>
    have hlast : ¬(WantsRetry config (attempts attemptNumber) ∧ attemptNumber<2) := fun hretry =>
      absurd hretry.2 (by omega)
    rw [perform_eq,if_neg hlast,made_of_last _ rfl]
    simpa [lastAttempt] using hevents true
  | succ left ih =>
    have hnext := ih (attemptNumber+1) (by omega)
      (requests_attemptEvents ids config method url headers payload _ _)
    by_cases hwants : WantsRetry config (attempts attemptNumber)
    · obtain ⟨hrequests,hrecorded,hresponse⟩ := hnext
      have hlast : lastAttempt (fun k => WantsRetry config (attempts k)) (left+1) attemptNumber=
          lastAttempt (fun k => WantsRetry config (attempts k)) left (attemptNumber+1) :=
        if_pos hwants
      have hle := le_lastAttempt (fun k => WantsRetry config (attempts k)) left (attemptNumber+1)
      have hfinal : decide (attemptNumber=
          lastAttempt (fun k => WantsRetry config (attempts k)) left (attemptNumber+1))=false :=
        decide_eq_false (by omega)
      obtain ⟨hrequest,hrecord⟩ := hevents false
      rw [perform_eq,if_pos ⟨hwants,by omega⟩,hlast,made_of_wants _ hwants]
      dsimp only
      rw [List.map_cons,List.map_cons,hfinal,←hrequests,←hrecorded,hresponse]
      exact ⟨(List.filterMap_append).trans (congrArg (·++_) hrequest),
        (List.filterMap_append).trans (congrArg (·++_) hrecord),rfl⟩
    · have hstop : lastAttempt (fun k => WantsRetry config (attempts k)) (left+1) attemptNumber=
          attemptNumber := if_neg hwants
      rw [perform_eq,if_neg fun hretry => hwants hretry.1,hstop,made_of_last _ hstop]
      simpa using hevents true

theorem tag_result_setAttempt (attemptNumber : ℕ) (isFinal : Bool) (id : Id) :
    ids.tag "ipc.result".toList (setAttempt ids attemptNumber isFinal id)=
      ids.tag "ipc.result".toList id := by
  rw [setAttempt,ids.tag_withTag,if_neg (by decide),ids.tag_withTag,if_neg (by decide)]

theorem tag_result_setStatusCode (code : ℤ) (id : Id) :
    ids.tag "ipc.result".toList (setStatusCode ids code id)=ids.tag "ipc.result".toList id := by
  rw [setStatusCode,ids.tag_withTag,if_neg (by decide)]

theorem tag_result_setError (error : Token) (id : Id) :
    ids.tag "ipc.result".toList (setError ids error id)=some "failure".toList := by
  rw [setError,ids.tag_withTag,if_neg (by decide),ids.tag_withTag,if_pos rfl]

theorem tag_result_setSuccess (id : Id) :
    ids.tag "ipc.result".toList (setSuccess ids id)=some "success".toList := by
  rw [setSuccess,ids.tag_withTag,if_pos rfl]

/-- The tags of an entry that is logged say which attempt it is of, whether it
is the last one, and how it has ended. -/
theorem tag_loggedId (attempt : Attempt) (attemptNumber : ℕ) (isFinal : Bool) :
    let id := loggedId ids method url attempt attemptNumber isFinal
    ids.tag "ipc.attempt".toList id=some (attemptText attemptNumber) ∧
    ids.tag "ipc.attempt.final".toList id=
      some (if isFinal then "true".toList else "false".toList) ∧
    ids.tag "ipc.result".toList id=
      some (if Succeeds attempt then "success".toList else "failure".toList) := by
  dsimp only
  refine ⟨?_,?_,?_⟩
  · rw [loggedId,setAttempt,ids.tag_withTag,if_neg (by decide),ids.tag_withTag,if_pos rfl]
  · rw [loggedId,setAttempt,ids.tag_withTag,if_pos rfl]
  · rw [loggedId,tag_result_setAttempt]
    cases hresult : attempt.result with
    | failed error elapsed =>
      have hfails : ¬Succeeds attempt := by
        rw [Succeeds,hresult]
        exact id
      rw [if_neg hfails]
      cases isFinal with
      | false => exact tag_result_setError ids _ _
      | true => exact (tag_result_setStatusCode ids _ _).trans (tag_result_setError ids _ _)
    | completed httpCode =>
      have hsucceeds : Succeeds attempt ↔ httpCode.tdiv 100=2 := by
        rw [Succeeds,hresult]
        exact (tdiv_hundred_iff httpCode (by decide : (0 : ℤ)<2)).symm
      by_cases htwo : httpCode.tdiv 100=2
      · rw [if_pos (hsucceeds.mpr htwo)]
        dsimp only
        rw [if_pos htwo,tag_result_setSuccess]
      · rw [if_neg fun h => htwo (hsucceeds.mp h)]
        dsimp only
        rw [if_neg htwo,tag_result_setError]

/-- perform makes one to three requests, and another one exactly after an
attempt that asks for it. It logs one entry for each, which tells the attempts
apart, and returns the response of the last one. -/
theorem perform_attempts :
    ∃ last ≤ 2,
      requests (perform ids config method url headers payload attempts 0).1=
        List.replicate (last+1) (setUp config method url headers payload) ∧
      (∀ k ≤ last,k<last ↔ k<2 ∧ WantsRetry config (attempts k)) ∧
      (recorded (perform ids config method url headers payload attempts 0).1).length=last+1 ∧
      (∀ k ≤ last,∃ id,
        (recorded (perform ids config method url headers payload attempts 0).1)[k]?=some id ∧
        ids.tag "ipc.attempt".toList id=
          ["initial".toList,"second".toList,"third_up".toList][k]? ∧
        ids.tag "ipc.attempt.final".toList id=
          some (if k=last then "true".toList else "false".toList) ∧
        ids.tag "ipc.result".toList id=
          some (if Succeeds (attempts k) then "success".toList else "failure".toList)) ∧
      (perform ids config method url headers payload attempts 0).2=response (attempts last) := by
  have hmade := perform_made ids config method url headers payload attempts 2 0 rfl
  have hlast := lastAttempt_le (fun k => WantsRetry config (attempts k)) 2 0
  have hlt : ∀ k ≤ lastAttempt (fun k => WantsRetry config (attempts k)) 2 0,
      k<lastAttempt (fun k => WantsRetry config (attempts k)) 2 0 ↔
        k<0+2 ∧ WantsRetry config (attempts k) :=
    fun k => lt_lastAttempt_iff _ (Nat.zero_le k)
  dsimp only [made] at hmade
  generalize lastAttempt (fun k => WantsRetry config (attempts k)) 2 0=last at hmade hlast hlt
  obtain ⟨hrequests,hrecorded,hresponse⟩ := hmade
  refine ⟨last,hlast,?_,fun k hk => hlt k hk,?_,fun k hk => ?_,hresponse⟩
  · rw [hrequests,List.map_const',List.length_range',Nat.sub_zero]
  · rw [hrecorded,List.length_map,List.length_range',Nat.sub_zero]
  · obtain ⟨hattempt,hfinal,hresult⟩ :=
      tag_loggedId ids method url (attempts k) k (decide (k=last))
    refine ⟨_,?_,?_,?_,hresult⟩
    · rw [hrecorded,List.getElem?_map,List.getElem?_range' (by omega),Nat.zero_add,Nat.one_mul]
      rfl
    · rw [hattempt]
      match k,hk.trans hlast with
      | 0,_ => rfl
      | 1,_ => rfl
      | 2,_ => rfl
    · rw [hfinal]
      simp only [decide_eq_true_eq]

end Perform

/-- Meter ids that are a name and a map of tags. -/
def namedTags : MeterIds (Token×AList fun _ : Token => Token) where
  make name tags := (name,tags.foldl (fun map tag => map.insert tag.1 tag.2) ∅)
  withTag key value id := (id.1,id.2.insert key value)
  tag key id := id.2.lookup key
  tag_withTag key value id other := by
    split
    · next h => rw [h,AList.lookup_insert]
    · next h => exact AList.lookup_insert_ne h

/-- A server that is busy, then does not answer the connection, then responds. -/
def thirdTime : ℕ → Attempt
  | 0 => ⟨.completed 503,[],∅,1⟩
  | 1 => ⟨.failed .couldntConnect 5,[],∅,1⟩
  | _ => ⟨.completed 200,"ok".toList,∅,1⟩

theorem perform_attempts_thirdTime :
    let performed := perform namedTags ⟨10,10⟩ "GET".toList "/".toList [] [] thirdTime 0
    (requests performed.1).length=3 ∧ performed.2.status=200 := by
  intro performed
  obtain ⟨last,hle,hrequests,hagain,-,-,hresponse⟩ :=
    perform_attempts namedTags ⟨10,10⟩ "GET".toList "/".toList [] [] thirdTime
  have hfirst : 0<last := (hagain 0 (Nat.zero_le _)).mpr (by decide)
  have hsecond : 1<last := (hagain 1 hfirst).mpr (by decide)
  obtain rfl : last=2 := by omega
  exact ⟨by rw [hrequests,List.length_replicate],congrArg HttpResponse.status hresponse⟩

end AtlasAgent.HttpClient
