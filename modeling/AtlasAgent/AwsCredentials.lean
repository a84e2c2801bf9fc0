import AtlasAgent.AwsDates
import AtlasAgent.HttpClient
import AtlasAgent.LatestSample
import Mathlib.Algebra.Order.Field.Rat

/-!
# Aws::collect

A token is asked for at every call, the instance profile until it has been
learned once, and then the credentials of that profile. Each of these is a
request of the HTTP client with its attempts. The JSON parser is a parameter.
-/

namespace AtlasAgent.AwsCredentials

open AwsDates BoundedRetry HttpClient LatestSample RunHistory TextFields

/-- What rapidjson makes of a text. -/
inductive ParsedJson
  | parseError
  | notObject
  /-- The members in their order; a value that is no string has none. -/
  | object (members : List (Token×Option Token))

/-- What update_stats_from does with the registry. -/
inductive AwsMeter
  | gauge (name : Token) (value : ℚ)
  | counter (name : Token) (tags : List (Token×Token))
  deriving DecidableEq

/-- getDateFrom. GetString asserts that the value is a string. -/
def getDateFrom (members : List (Token×Option Token)) (dateStr : Token) : Option ℤ :=
  match members.find? (·.1=dateStr) with
  | none => some 0
  | some (_,value) => value.map timeFrom

/-- A second, in the nanoseconds that times are counted in. -/
def second : ℤ := 1000000000

/-- A minute. -/
def minute : ℤ := 60*second

/-- absl::ToDoubleSeconds. -/
def toDoubleSeconds (duration : ℤ) : ℚ := duration/1000000000

/-- The bucket of a time to live. -/
def bucketOf (ttl : ℤ) : Token :=
  if ttl<0 then "expired".toList
  else if ttl≤5*minute then "05min".toList
  else if ttl≤30*minute then "30min".toList
  else if ttl≤60*minute then "60min".toList
  else "hours".toList

/-- The counter of credentials that could not be refreshed. -/
def refreshError : AwsMeter := .counter "aws.credentialsRefreshErrors".toList []

/-- Aws::update_stats_from, and whether no assertion has failed. -/
def updateStatsFrom (now : ℤ) : ParsedJson → List AwsMeter×Bool
  | .parseError => ([refreshError],true)
  | .notObject => ([refreshError],true)
  | .object members =>
    match getDateFrom members "LastUpdated".toList with
    | none => ([],false)
    | some lastUpdated =>
      let age :=
        if 0<lastUpdated then
          [.gauge "aws.credentialsAge".toList (toDoubleSeconds (now-lastUpdated*second))]
        else []
      match getDateFrom members "Expiration".toList with
      | none => (age,false)
      | some expiration =>
        if 0<expiration then
          let ttl := expiration*second-now
          (age++[.gauge "aws.credentialsTtl".toList (toDoubleSeconds ttl),
            .counter "aws.credentialsTtlBucket".toList [("bucket".toList,bucketOf ttl)]],true)
        else (age,true)

/-- The environment variables that are read. -/
structure Environment where
  /-- NETFLIX_EXECUTOR. -/
  executor : Option Token
  /-- AWS_EC2_METADATA_SERVICE_ENDPOINT. -/
  metadataEndpoint : Option Token

/-- get_netflix_executor. -/
def getNetflixExecutor (env : Environment) : Token := env.executor.getD "unknown".toList

/-- get_metadata_endpoint. -/
def getMetadataEndpoint (env : Environment) : Token :=
  env.metadataEndpoint.getD "http://169.254.169.254".toList

/-- get_token_endpoint. -/
def getTokenEndpoint (env : Environment) : Token :=
  getMetadataEndpoint env++ '/'::"latest/api/token".toList

/-- get_iam_endpoint. -/
def getIamEndpoint (env : Environment) : Token :=
  getMetadataEndpoint env++ '/'::"latest/meta-data/iam/security-credentials/".toList

/-- The HttpClientConfig of the constructor. -/
def awsClientConfig : HttpClientConfig := ⟨second,second⟩

/-- What one call of collect meets: the attempts of each of its requests, and
absl::Now. -/
structure CollectCall where
  token : ℕ → Attempt
  profile : ℕ → Attempt
  credentials : ℕ → Attempt
  now : ℤ

/-- What collect does, the messages of the logger left out. -/
inductive AwsEvent (Id : Type)
  | http (event : HttpEvent Id)
  | meter (meter : AwsMeter)
  /-- An assertion of rapidjson fails, which ends the program. -/
  | assertionFailed

section Collect

variable {Id : Type} (ids : MeterIds Id) (parse : Token → ParsedJson) (env : Environment)

/-- HttpClient::method_header as collect uses it. -/
def methodHeader (method url header : Token) (attempts : ℕ → Attempt) :
    List (AwsEvent Id)×HttpResponse :=
  let performed := perform ids awsClientConfig method url [header] [] attempts 0
  (performed.1.map .http,performed.2)

/-- The header of the request for a token. -/
def tokenTtl : Token := "X-aws-ec2-metadata-token-ttl-seconds: 60".toList

/-- The header with a token. -/
def tokenHeader (token : Token) : Token := "X-aws-ec2-metadata-token: ".toList++token

/-- update_stats_from as the last part of collect. -/
def updateEvents (now : ℤ) (json : Token) : List (AwsEvent Id) :=
  let updated := updateStatsFrom now (parse json)
  updated.1.map .meter++if updated.2 then [] else [.assertionFailed]

/-- The request for the credentials, and what is done with them. -/
def getCredentials (credsUrl header : Token) (call : CollectCall) : List (AwsEvent Id) :=
  let creds := methodHeader ids "GET".toList credsUrl header call.credentials
  creds.1++
    if creds.2.status≠200 then [.meter refreshError]
    else updateEvents parse call.now creds.2.rawBody

/-- Aws::collect; the state is creds_url_. -/
def collect (credsUrl : Token) (call : CollectCall) : Token×List (AwsEvent Id) :=
  if getNetflixExecutor env≠"ec2".toList ∧ getNetflixExecutor env≠"titus".toList then (credsUrl,[])
  else
    let token := methodHeader ids "PUT".toList (getTokenEndpoint env) tokenTtl call.token
    if token.2.status≠200 then (credsUrl,token.1)
    else
      let header := tokenHeader token.2.rawBody
      if credsUrl=[] then
        let profile := methodHeader ids "GET".toList (getIamEndpoint env) header call.profile
        if profile.2.status=200 then
          let credsUrl := getIamEndpoint env++profile.2.rawBody
          (credsUrl,token.1++profile.1++getCredentials ids parse credsUrl header call)
        else (credsUrl,token.1++profile.1)
      else (credsUrl,token.1++getCredentials ids parse credsUrl header call)

/-- creds_url_ after the calls. -/
def credsUrlAfter (history : List CollectCall) : Token :=
  runState (collect ids parse env) [] history

/-- What a call does after others. -/
def collectAfter (history : List CollectCall) (call : CollectCall) : List (AwsEvent Id) :=
  outputAfter (collect ids parse env) [] history call

end Collect

/-- An event of the HTTP client. -/
def AwsEvent.asHttp {Id : Type} : AwsEvent Id → Option (HttpEvent Id)
  | .http event => some event
  | _ => none

/-- A meter that is set. -/
def AwsEvent.asMeter {Id : Type} : AwsEvent Id → Option AwsMeter
  | .meter value => some value
  | _ => none

/-- The requests among the events. -/
def requestsOf {Id : Type} (events : List (AwsEvent Id)) : List CurlRequest :=
  requests (events.filterMap AwsEvent.asHttp)

/-- The meters among the events. -/
def metersOf {Id : Type} (events : List (AwsEvent Id)) : List AwsMeter :=
  events.filterMap AwsEvent.asMeter

/-- The last attempt made of those that a request meets. -/
def lastOf (attempts : ℕ → Attempt) : ℕ :=
  lastAttempt (fun k => WantsRetry awsClientConfig (attempts k)) 2 0

/-- The response of a request. -/
def responseOf (attempts : ℕ → Attempt) : HttpResponse := response (attempts (lastOf attempts))

/-- The executors that collect does anything for. -/
def Collects (env : Environment) : Prop :=
  env.executor=some "ec2".toList ∨ env.executor=some "titus".toList

instance (env : Environment) : Decidable (Collects env) :=
  inferInstanceAs (Decidable (env.executor=some "ec2".toList ∨ env.executor=some "titus".toList))

/-- What a call learns of the instance profile, if it asks for it. -/
def profileOf (call : CollectCall) : Option Token :=
  if (responseOf call.token).status=200 ∧ (responseOf call.profile).status=200 then
    some (responseOf call.profile).rawBody
  else none

/-- One request with all its attempts. -/
def repeated (method url header : Token) (attempts : ℕ → Attempt) : List CurlRequest :=
  List.replicate (lastOf attempts+1) (setUp awsClientConfig method url [header] [])

section Events

variable {Id : Type} (ids : MeterIds Id) (parse : Token → ParsedJson) (env : Environment)

@[simp] theorem requestsOf_append (first second : List (AwsEvent Id)) :
    requestsOf (first++second)=requestsOf first++requestsOf second := by
  rw [requestsOf,List.filterMap_append,requests,List.filterMap_append]
  rfl

@[simp] theorem metersOf_append (first second : List (AwsEvent Id)) :
    metersOf (first++second)=metersOf first++metersOf second := List.filterMap_append

/-- A request has all its attempts and no meter, and the response of the last
attempt is returned. -/
theorem methodHeader_spec (method url header : Token) (attempts : ℕ → Attempt) :
    let sent := methodHeader ids method url header attempts
    requestsOf sent.1=repeated method url header attempts ∧ metersOf sent.1=[] ∧
      sent.2=responseOf attempts := by
  obtain ⟨hrequests,-,hresponse⟩ :=
    perform_made ids awsClientConfig method url [header] [] attempts 2 0 rfl
  refine ⟨?_,?_,hresponse⟩
  · have hhttp : (AwsEvent.asHttp∘AwsEvent.http : HttpEvent Id → _)=some := rfl
    rw [repeated,lastOf,methodHeader,requestsOf,List.filterMap_map,hhttp,List.filterMap_some,
      hrequests,made,List.map_const',List.length_range',Nat.sub_zero]
  · rw [methodHeader,metersOf,List.filterMap_map]
    exact List.filterMap_eq_nil_iff.mpr fun _ _ => rfl

/-- The meters of a parsed document are those of update_stats_from. -/
theorem updateEvents_spec (now : ℤ) (json : Token) :
    let events : List (AwsEvent Id) := updateEvents parse now json
    requestsOf events=[] ∧ metersOf events=(updateStatsFrom now (parse json)).1 := by
  have hmeter : AwsEvent.asMeter∘(AwsEvent.meter : AwsMeter → AwsEvent Id)=some := rfl
  have hhttp : (updateStatsFrom now (parse json)).1.filterMap
      (AwsEvent.asHttp∘(AwsEvent.meter : AwsMeter → AwsEvent Id))=[] :=
    List.filterMap_eq_nil_iff.mpr fun _ _ => rfl
  dsimp only [updateEvents]
  rw [requestsOf_append,metersOf_append,requestsOf,metersOf,List.filterMap_map,
    List.filterMap_map,hhttp,hmeter,List.filterMap_some]
  split
  · exact ⟨rfl,List.append_nil _⟩
  · exact ⟨rfl,List.append_nil _⟩

/-- What the credentials' response comes to. -/
def metersOfCredentials (call : CollectCall) : List AwsMeter :=
  if (responseOf call.credentials).status=200 then
    (updateStatsFrom call.now (parse (responseOf call.credentials).rawBody)).1
  else [refreshError]

theorem getCredentials_spec (credsUrl header : Token) (call : CollectCall) :
    requestsOf (getCredentials ids parse credsUrl header call)=
      repeated "GET".toList credsUrl header call.credentials ∧
    metersOf (getCredentials ids parse credsUrl header call)=metersOfCredentials parse call := by
  obtain ⟨hrequests,hmeters,hresponse⟩ :=
    methodHeader_spec ids "GET".toList credsUrl header call.credentials
  obtain ⟨hnone,hupdate⟩ : requestsOf (updateEvents parse call.now
      (responseOf call.credentials).rawBody : List (AwsEvent Id))=[] ∧ _ :=
    updateEvents_spec parse call.now (responseOf call.credentials).rawBody
  rw [getCredentials,requestsOf_append,metersOf_append,hrequests,hmeters,hresponse,metersOfCredentials]
  by_cases hok : (responseOf call.credentials).status=200
  · rw [if_neg (not_not.mpr hok),if_pos hok,hnone,hupdate]
    exact ⟨List.append_nil _,rfl⟩
  · rw [if_pos hok,if_neg hok]
    exact ⟨List.append_nil _,rfl⟩

/-- Whether collect does anything depends on the executor alone. -/
theorem collects_iff : Collects env ↔
    ¬(getNetflixExecutor env≠"ec2".toList ∧ getNetflixExecutor env≠"titus".toList) := by
  rw [Collects,getNetflixExecutor]
  cases env.executor with
  | none => decide
  | some executor => simp only [Option.some.injEq,Option.getD_some]; tauto

theorem getIamEndpoint_ne_nil (profile : Token) : getIamEndpoint env++profile≠[] := by
  simp [getIamEndpoint]

/-- What one call requests and sets, the URL of the credentials given. -/
structure CallReport where
  requests : List CurlRequest
  meters : List AwsMeter

/-- The report of a call that knows the URL of the credentials or not. -/
def reportOf (credsUrl : Option Token) (call : CollectCall) : CallReport :=
  let token := repeated "PUT".toList (getTokenEndpoint env) tokenTtl call.token
  let header := tokenHeader (responseOf call.token).rawBody
  let profile := repeated "GET".toList (getIamEndpoint env) header call.profile
  let credentials := fun url => repeated "GET".toList url header call.credentials
  if (responseOf call.token).status=200 then
    match credsUrl with
    | some url => ⟨token++credentials url,metersOfCredentials parse call⟩
    | none =>
      if (responseOf call.profile).status=200 then
        ⟨token++profile++credentials (getIamEndpoint env++(responseOf call.profile).rawBody),
          metersOfCredentials parse call⟩
      else ⟨token++profile,[]⟩
  else ⟨token,[]⟩

/-- creds_url_ as a value that is there or not. -/
def knownUrl (credsUrl : Token) : Option Token := if credsUrl=[] then none else some credsUrl

theorem knownUrl_nil : knownUrl []=none := rfl

theorem knownUrl_of_ne {credsUrl : Token} (h : credsUrl≠[]) : knownUrl credsUrl=some credsUrl :=
  if_neg h

/-- One call: the URL is kept once it is known and learned from the profile
until then, and the requests and meters depend on it and on the call alone. -/
theorem collect_spec (hcollects : Collects env) (credsUrl : Token) (call : CollectCall) :
    let step := collect ids parse env credsUrl call
    let report := reportOf parse env (knownUrl credsUrl) call
    knownUrl step.1=(knownUrl credsUrl).or ((profileOf call).map (getIamEndpoint env++·)) ∧
      requestsOf step.2=report.requests ∧ metersOf step.2=report.meters := by
  obtain ⟨htoken,htokenMeters,htokenResponse⟩ :=
    methodHeader_spec ids "PUT".toList (getTokenEndpoint env) tokenTtl call.token
  have hget := fun url header attempts => methodHeader_spec ids "GET".toList url header attempts
  rw [collect,if_neg ((collects_iff env).mp hcollects)]
  dsimp only at htokenResponse ⊢
  rw [htokenResponse,reportOf.eq_def,profileOf]
  dsimp only
  by_cases hstatus : (responseOf call.token).status=200
  · rw [if_neg (not_not.mpr hstatus),if_pos hstatus]
    by_cases hnew : credsUrl=[]
    · obtain ⟨hprofile,hprofileMeters,hprofileResponse⟩ := hget (getIamEndpoint env)
        (tokenHeader (responseOf call.token).rawBody) call.profile
      subst hnew
      rw [if_pos rfl,hprofileResponse,knownUrl_nil]
      by_cases hlearned : (responseOf call.profile).status=200
      · obtain ⟨hcreds,hcredsMeters⟩ := getCredentials_spec ids parse
          (getIamEndpoint env++(responseOf call.profile).rawBody)
          (tokenHeader (responseOf call.token).rawBody) call
        rw [if_pos hlearned,if_pos ⟨hstatus,hlearned⟩]
        dsimp only
        rw [if_pos hlearned,knownUrl_of_ne (getIamEndpoint_ne_nil env _),requestsOf_append,
          requestsOf_append,metersOf_append,metersOf_append,htoken,hprofile,hcreds,htokenMeters,
          hprofileMeters,hcredsMeters]
        exact ⟨rfl,rfl,rfl⟩
      · rw [if_neg hlearned,if_neg fun h => hlearned h.2]
        dsimp only
        rw [if_neg hlearned,knownUrl_nil,requestsOf_append,metersOf_append,htoken,hprofile,
          htokenMeters,hprofileMeters]
        exact ⟨rfl,rfl,rfl⟩
    · obtain ⟨hcreds,hcredsMeters⟩ := getCredentials_spec ids parse credsUrl
        (tokenHeader (responseOf call.token).rawBody) call
      rw [if_neg hnew,knownUrl_of_ne hnew]
      dsimp only
      rw [requestsOf_append,metersOf_append,htoken,hcreds,htokenMeters,hcredsMeters]
      exact ⟨rfl,rfl,rfl⟩
  · rw [if_pos hstatus,if_neg hstatus,if_neg fun h => hstatus h.1]
    dsimp only
    rw [htoken,htokenMeters,Option.map_none,Option.or_none]
    exact ⟨rfl,rfl,rfl⟩

/-- Requests one after the other, each in one to three attempts. -/
def AttemptsOf (sent : List (CurlRequest×ℕ)) (made : List CurlRequest) : Prop :=
  (∀ entry∈sent,1 ≤ entry.2 ∧ entry.2≤3) ∧
    made=sent.flatMap fun (request,attempts) => List.replicate attempts request

theorem AttemptsOf.append {sent later : List (CurlRequest×ℕ)} {made madeLater : List CurlRequest}
    (h : AttemptsOf sent made) (hlater : AttemptsOf later madeLater) :
    AttemptsOf (sent++later) (made++madeLater) :=
  ⟨List.forall_mem_append.mpr ⟨h.1,hlater.1⟩,by rw [h.2,hlater.2,List.flatMap_append]⟩

theorem attemptsOf_repeated (method url header : Token) (attempts : ℕ → Attempt) :
    AttemptsOf [(setUp awsClientConfig method url [header] [],lastOf attempts+1)]
      (repeated method url header attempts) := by
  have hlast := lastAttempt_le (fun k => WantsRetry awsClientConfig (attempts k)) 2 0
  refine ⟨List.forall_mem_singleton.mpr ⟨Nat.le_add_left 1 _,?_⟩,?_⟩
  · rw [lastOf]
    omega
  · rw [repeated,List.flatMap_singleton]

/-- A report has at most three requests. -/
theorem exists_attemptsOf (credsUrl : Option Token) (call : CollectCall) :
    ∃ sent,sent.length≤3 ∧ AttemptsOf sent (reportOf parse env credsUrl call).requests := by
  have hput := attemptsOf_repeated "PUT".toList (getTokenEndpoint env) tokenTtl call.token
  have hprofile := attemptsOf_repeated "GET".toList (getIamEndpoint env)
    (tokenHeader (responseOf call.token).rawBody) call.profile
  have hcreds := fun url => attemptsOf_repeated "GET".toList url
    (tokenHeader (responseOf call.token).rawBody) call.credentials
  rw [reportOf.eq_def]
  dsimp only
  split
  · cases credsUrl with
    | some url => exact ⟨_,by simp,hput.append (hcreds url)⟩
    | none =>
      dsimp only
      split
      · exact ⟨_,by simp,(hput.append hprofile).append (hcreds _)⟩
      · exact ⟨_,by simp,hput.append hprofile⟩
  · exact ⟨_,by simp,hput⟩

/-- Three requests with three attempts each are nine. -/
theorem AttemptsOf.length_le {sent : List (CurlRequest×ℕ)} {made : List CurlRequest}
    (h : AttemptsOf sent made) : made.length≤3*sent.length := by
  obtain ⟨hthree,rfl⟩ := h
  induction sent with
  | nil => exact Nat.zero_le _
  | cons entry sent ih =>
    obtain ⟨hentry,hsent⟩ := List.forall_mem_cons.mp hthree
    have hrest := ih hsent
    rw [List.flatMap_cons,List.length_append,List.length_replicate,List.length_cons]
    omega

/-- The URL of the credentials is that of the first profile learned. -/
theorem credsUrl_every_run (hcollects : Collects env) (history : List CollectCall) :
    knownUrl (credsUrlAfter ids parse env history)=
      (history.findSome? profileOf).map (getIamEndpoint env++·) := by
  have hkept : knownUrl (runState (collect ids parse env) [] history)=_ :=
    kept_every_run knownUrl (fun call => (profileOf call).map (getIamEndpoint env++·))
      (fun credsUrl call => (collect_spec ids parse env hcollects credsUrl call).1) [] history
  rw [credsUrlAfter,hkept,knownUrl_nil,Option.none_or,List.map_findSome?]
  rfl

/-- After any calls, a call for another executor does nothing. Else it asks for
a token, with a token for the profile unless one has been learned before, and
for the credentials of the profile that was learned first, each in at most three
attempts; and it sets the meters that the credentials' response asks for. -/
theorem collect_every_run (history : List CollectCall) (call : CollectCall) :
    (¬Collects env → collectAfter ids parse env history call=[]) ∧
    (Collects env →
      let known := (history.findSome? profileOf).map (getIamEndpoint env++·)
      requestsOf (collectAfter ids parse env history call)=
        (reportOf parse env known call).requests ∧
      (requestsOf (collectAfter ids parse env history call)).length≤9 ∧
      (∃ sent,sent.length≤3 ∧
        AttemptsOf sent (requestsOf (collectAfter ids parse env history call))) ∧
      metersOf (collectAfter ids parse env history call)=
        (reportOf parse env known call).meters) := by
  constructor
  · intro hcollects
    rw [collectAfter,outputAfter,collect,
      if_pos (not_not.mp (mt (collects_iff env).mpr hcollects))]
  · intro hcollects
    obtain ⟨-,hrequests,hmeters⟩ :=
      collect_spec ids parse env hcollects (credsUrlAfter ids parse env history) call
    rw [credsUrl_every_run ids parse env hcollects] at hrequests hmeters
    obtain ⟨sent,hsent,hattempts⟩ := exists_attemptsOf parse env
      ((history.findSome? profileOf).map (getIamEndpoint env++·)) call
    rw [←hrequests] at hattempts
    have hle := hattempts.length_le
    exact ⟨hrequests,hle.trans (by omega),⟨sent,hsent,hattempts⟩,hmeters⟩

end Events

section Dates

/-- The seconds after the epoch of a time of the day so many days after it. -/
def instant (days : ℕ) (time : TimeOfDay) : ℤ := 86400*days+time.seconds

/-- A member whose value is a date and a time in the ISO text. -/
def HasDate (members : List (Token×Option Token)) (dateStr : Token) (days : ℕ)
    (time : TimeOfDay) : Prop :=
  (CivilTime.Date.after days).year≤9999 ∧ ∃ rest,
    (members.find? (·.1=dateStr)).map Prod.snd=
      some (some (isoText (CivilTime.Date.after days) time++rest))

theorem HasDate.getDateFrom {members : List (Token×Option Token)} {dateStr : Token} {days : ℕ}
    {time : TimeOfDay} (h : HasDate members dateStr days time) :
    getDateFrom members dateStr=some (instant days time) := by
  obtain ⟨hlast,rest,hfind⟩ := h
  obtain ⟨⟨name,value⟩,hfind,hvalue⟩ := Option.map_eq_some_iff.mp hfind
  obtain rfl : value=some _ := hvalue
  rw [AwsCredentials.getDateFrom,hfind]
  exact congrArg some (timeFrom_isoText hlast time rest)

/-- The bounds of the buckets, in nanoseconds. -/
theorem bucketOf_spec (ttl : ℤ) :
    (bucketOf ttl="expired".toList ↔ ttl<0) ∧
    (bucketOf ttl="05min".toList ↔ 0≤ttl ∧ ttl≤5*minute) ∧
    (bucketOf ttl="30min".toList ↔ 5*minute<ttl ∧ ttl≤30*minute) ∧
    (bucketOf ttl="60min".toList ↔ 30*minute<ttl ∧ ttl≤60*minute) ∧
    (bucketOf ttl="hours".toList ↔ 60*minute<ttl) := by
  have hminute : minute=60000000000 := rfl
  rw [hminute,bucketOf,hminute]
  by_cases hexpired : ttl<0
  · rw [if_pos hexpired]
    refine ⟨by simp [hexpired],?_,?_,?_,?_⟩ <;>
      exact ⟨fun h => absurd h (by decide),fun h => by omega⟩
  · rw [if_neg hexpired]
    by_cases hfive : ttl≤5*60000000000
    · rw [if_pos hfive]
      refine ⟨?_,⟨fun _ => by omega,fun _ => rfl⟩,?_,?_,?_⟩ <;>
        exact ⟨fun h => absurd h (by decide),fun h => by omega⟩
    · rw [if_neg hfive]
      by_cases hthirty : ttl≤30*60000000000
      · rw [if_pos hthirty]
        refine ⟨?_,?_,⟨fun _ => by omega,fun _ => rfl⟩,?_,?_⟩ <;>
          exact ⟨fun h => absurd h (by decide),fun h => by omega⟩
      · rw [if_neg hthirty]
        by_cases hsixty : ttl≤60*60000000000
        · rw [if_pos hsixty]
          refine ⟨?_,?_,?_,⟨fun _ => by omega,fun _ => rfl⟩,?_⟩ <;>
            exact ⟨fun h => absurd h (by decide),fun h => by omega⟩
        · rw [if_neg hsixty]
          refine ⟨?_,?_,?_,?_,⟨fun _ => by omega,fun _ => rfl⟩⟩ <;>
            exact ⟨fun h => absurd h (by decide),fun h => by omega⟩

/-- Credentials with the ISO texts of two times after the epoch set the age of
the one and the time until the other, and count one bucket: expired exactly when
the time has passed, else the first of 5, 30 and 60 minutes that it is within. -/
theorem updateStatsFrom_isoText (now : ℤ) {members : List (Token×Option Token)}
    {updatedDays days : ℕ} {updatedTime time : TimeOfDay}
    (hupdated : HasDate members "LastUpdated".toList updatedDays updatedTime)
    (hexpires : HasDate members "Expiration".toList days time)
    (hupdatedPos : 0 < instant updatedDays updatedTime) (hpos : 0 < instant days time) :
    ∃ bucket,updateStatsFrom now (.object members)=
      ([.gauge "aws.credentialsAge".toList (now/1000000000-instant updatedDays updatedTime),
        .gauge "aws.credentialsTtl".toList (instant days time-now/1000000000),
        .counter "aws.credentialsTtlBucket".toList [("bucket".toList,bucket)]],true) ∧
      (bucket="expired".toList ↔ instant days time*second<now) ∧
      (bucket="05min".toList ↔
        now ≤ instant days time*second ∧ instant days time*second≤now+5*minute) ∧
      (bucket="30min".toList ↔
        now+5*minute < instant days time*second ∧ instant days time*second≤now+30*minute) ∧
      (bucket="60min".toList ↔
        now+30*minute < instant days time*second ∧ instant days time*second≤now+60*minute) ∧
      (bucket="hours".toList ↔ now+60*minute < instant days time*second) := by
  obtain ⟨hexpired,hfive,hthirty,hsixty,hhours⟩ := bucketOf_spec (instant days time*second-now)
  refine ⟨bucketOf (instant days time*second-now),?_,hexpired.trans (by omega),
    hfive.trans (by omega),hthirty.trans (by omega),hsixty.trans (by omega),hhours.trans (by omega)⟩
  have hage : toDoubleSeconds (now-instant updatedDays updatedTime*second)=
      now/1000000000-instant updatedDays updatedTime := by
    rw [toDoubleSeconds,second]
    push_cast
    ring
  have httl : toDoubleSeconds (instant days time*second-now)=
      instant days time-now/1000000000 := by
    rw [toDoubleSeconds,second]
    push_cast
    ring
  rw [updateStatsFrom,hupdated.getDateFrom,hexpires.getDateFrom]
  dsimp only
  rw [if_pos hupdatedPos,if_pos hpos,hage,httl]
  rfl

/-- Credentials of the second day after the epoch that have a second left. -/
def nearlyExpired : List (Token×Option Token) :=
  [("Code".toList,some "Success".toList),("LastUpdated".toList,some "1970-01-02T00:00:00Z".toList),
    ("Expiration".toList,some "1970-01-03T00:00:01Z".toList)]

theorem updateStatsFrom_nearlyExpired : ∃ bucket,
    updateStatsFrom (172800*second) (.object nearlyExpired)=
      ([.gauge "aws.credentialsAge".toList ((172800*second : ℤ)/1000000000-86400),
        .gauge "aws.credentialsTtl".toList (172801-(172800*second : ℤ)/1000000000),
        .counter "aws.credentialsTtlBucket".toList [("bucket".toList,bucket)]],true) ∧
      bucket="05min".toList := by
  obtain ⟨bucket,hmeters,-,hfive,-⟩ := updateStatsFrom_isoText (172800*second)
    (show HasDate nearlyExpired "LastUpdated".toList 1 ⟨0,0,0,by decide,by decide,by decide⟩ from
      ⟨by decide,[],rfl⟩)
    (show HasDate nearlyExpired "Expiration".toList 2 ⟨0,0,1,by decide,by decide,by decide⟩ from
      ⟨by decide,[],rfl⟩)
    (by decide) (by decide)
  exact ⟨bucket,by rw [hmeters]; rfl,hfive.mpr (by decide)⟩

end Dates

/-- A call whose first request for a token comes too early, and that finds no
profile; and one that finds it. -/
def withoutProfile : CollectCall where
  token
    | 0 => ⟨.completed 503,[],∅,1⟩
    | _ => ⟨.completed 200,"t".toList,∅,1⟩
  profile _ := ⟨.completed 404,[],∅,1⟩
  credentials _ := ⟨.completed 200,"{}".toList,∅,1⟩
  now := 0

@[inherit_doc withoutProfile]
def withProfile : CollectCall :=
  { withoutProfile with profile := fun _ => ⟨.completed 200,"role".toList,∅,1⟩ }

/-- A token is asked for twice each time. The first call asks for the profile
with it, and one after a profile has been learned for the credentials of that. -/
theorem collect_withProfile :
    let env : Environment := ⟨some "titus".toList,none⟩
    let after := fun history =>
      (requestsOf (collectAfter namedTags (fun _ => .parseError) env history withoutProfile)).map
        fun request => (request.customRequest,request.url,request.headers)
    let put := (some "PUT".toList,"http://169.254.169.254/latest/api/token".toList,
      ["X-aws-ec2-metadata-token-ttl-seconds: 60".toList])
    let iam := "http://169.254.169.254/latest/meta-data/iam/security-credentials/".toList
    let token := ["X-aws-ec2-metadata-token: t".toList]
    after []=[put,put,(none,iam,token)] ∧
      after [withProfile,withProfile]=[put,put,(none,iam++"role".toList,token)] := by
  dsimp only
  obtain ⟨hfirst,-⟩ := (collect_every_run namedTags (fun _ => .parseError)
    ⟨some "titus".toList,none⟩ [] withoutProfile).2 (by decide)
  obtain ⟨hlater,-⟩ := (collect_every_run namedTags (fun _ => .parseError)
    ⟨some "titus".toList,none⟩ [withProfile,withProfile] withoutProfile).2 (by decide)
  rw [hfirst,hlater]
  exact ⟨by decide +kernel,by decide +kernel⟩

end AtlasAgent.AwsCredentials
