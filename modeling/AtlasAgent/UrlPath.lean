import AtlasAgent.HttpClient

/-!
# The path of a URL

path_from searches a URL with iterators: the colon after the scheme, the slash
of the path behind the authority, the question mark of the query. The tag
ipc.endpoint is what it returns. A URL is the text of its parts; a query may
hold any character.
-/

namespace AtlasAgent.UrlPath

open TextFields

/-- std::find from an iterator on. -/
def find (url : Token) (first : ℕ) (value : Char) : ℕ :=
  first+((url.drop first).takeWhile (· ≠ value)).length

/-- What path_from returns, and the iterators it has held. -/
structure PathSearch where
  path : Token
  iterators : List ℕ
  deriving DecidableEq

/-- path_from. -/
def searchPath (url : Token) : PathSearch :=
  let protoEnd := find url 0 ':'
  if url=[] then ⟨['/'],[]⟩
  else if protoEnd=url.length then ⟨url,[protoEnd]⟩
  else if ((url.drop protoEnd).takeWhile (· ≠ '\x00')).length<3 then ⟨url,[protoEnd]⟩
  else
    let authority := protoEnd+3
    let pathBegin := find url authority '/'
    if pathBegin=url.length then ⟨['/'],[protoEnd,authority,pathBegin]⟩
    else
      let queryBegin := find url pathBegin '?'
      ⟨(url.drop pathBegin).take (queryBegin-pathBegin),[protoEnd,authority,pathBegin,queryBegin]⟩

/-- What follows the place that a search finds. -/
theorem drop_find (url : Token) (first : ℕ) (value : Char) :
    url.drop (find url first value)=(url.drop first).dropWhile (· ≠ value) := by
  have hsplit := List.takeWhile_append_dropWhile (p:=(· ≠ value)) (l:=url.drop first)
  rw [find,←List.drop_drop]
  nth_rewrite 2 [←hsplit]
  exact List.drop_left

/-- A search does not leave the text. -/
theorem find_le {url : Token} {first : ℕ} (value : Char) (h : first≤url.length) :
    find url first value≤url.length := by
  have hlength := (List.takeWhile_sublist (· ≠ value) (l:=url.drop first)).length_le
  rw [List.length_drop] at hlength
  rw [find]
  omega

/-- A search that finds nothing comes to the end of the text. -/
theorem find_eq_length_iff {url : Token} {first : ℕ} (value : Char) (h : first≤url.length) :
    find url first value=url.length ↔ (url.drop first).dropWhile (· ≠ value)=[] := by
  rw [←drop_find,List.drop_eq_nil_iff]
  have hle := find_le value h
  omega

/-- Three characters of the C string at the colon are in the text. -/
theorem three_le_of_protocol {rest : Token}
    (h : ¬(rest.takeWhile (· ≠ '\x00')).length<3) : 3 ≤ rest.length := by
  have hlength := (List.takeWhile_sublist (· ≠ '\x00') (l:=rest)).length_le
  omega

/-- The search returns the path that is in the tag of a new LogEntry. -/
theorem searchPath_path (url : Token) : (searchPath url).path=HttpClient.pathFrom url := by
  have hproto : url.drop (find url 0 ':')=url.dropWhile (· ≠ ':') := drop_find url 0 ':'
  unfold searchPath HttpClient.pathFrom
  dsimp only
  by_cases hempty : url=[]
  · rw [if_pos hempty,if_pos hempty]
  rw [if_neg hempty,if_neg hempty]
  have hcolon : find url 0 ':'=url.length ↔ url.dropWhile (· ≠ ':')=[] :=
    find_eq_length_iff ':' (Nat.zero_le _)
  by_cases hnone : url.dropWhile (· ≠ ':')=[]
  · rw [if_pos (hcolon.mpr hnone),if_pos hnone]
  rw [if_neg (hcolon.not.mpr hnone),if_neg hnone,hproto]
  by_cases hshort : ((url.dropWhile (· ≠ ':')).takeWhile (· ≠ '\x00')).length<3
  · rw [if_pos hshort,if_pos hshort]
  rw [if_neg hshort,if_neg hshort]
  have hskip : find url 0 ':'+3≤url.length := by
    have hthree := three_le_of_protocol hshort
    rw [←hproto,List.length_drop] at hthree
    omega
  have hdrop : url.drop (find url 0 ':'+3)=(url.dropWhile (· ≠ ':')).drop 3 := by
    rw [←List.drop_drop,hproto]
  have hslash := find_eq_length_iff '/' hskip
  rw [hdrop] at hslash
  by_cases hpath : ((url.dropWhile (· ≠ ':')).drop 3).dropWhile (· ≠ '/')=[]
  · rw [if_pos (hslash.mpr hpath),if_pos hpath]
  rw [if_neg (hslash.not.mpr hpath),if_neg hpath]
  dsimp only
  rw [drop_find,hdrop]
  generalize hrest : ((url.dropWhile (· ≠ ':')).drop 3).dropWhile (· ≠ '/')=rest
  have hcut : find url (find url (find url 0 ':'+3) '/') '?'-find url (find url 0 ':'+3) '/'=
      (rest.takeWhile (· ≠ '?')).length := by
    rw [find,drop_find,hdrop,hrest,Nat.add_sub_cancel_left]
  have hsplit := List.takeWhile_append_dropWhile (p:=(· ≠ '?')) (l:=rest)
  rw [hcut]
  nth_rewrite 2 [←hsplit]
  exact List.take_left

/-- Whatever the text is, no iterator moves past its end. -/
theorem searchPath_iterators (url : Token) :
    ∀ iterator∈(searchPath url).iterators,iterator≤url.length := by
  have hcolon : find url 0 ':'≤url.length := find_le ':' (Nat.zero_le _)
  unfold searchPath
  dsimp only
  split
  · simp
  split
  · simpa using hcolon
  split
  · simpa using hcolon
  rename_i hlong
  have hskip : find url 0 ':'+3≤url.length := by
    have hthree := three_le_of_protocol hlong
    rw [List.length_drop] at hthree
    omega
  have hslash : find url (find url 0 ':'+3) '/'≤url.length := find_le '/' hskip
  split
  · simpa using ⟨hcolon,hskip,hslash⟩
  · simpa using ⟨hcolon,hskip,hslash,find_le '?' hslash⟩

/-- An absolute URL. -/
structure AbsoluteUrl where
  scheme : Token
  authority : Token
  /-- Empty when the URL has no path. -/
  path : Token
  query : Option Token
  scheme_ne : scheme≠[]
  scheme_free : ∀ c∈scheme, c ≠ ':' ∧ c ≠ '/' ∧ c ≠ '?'
  authority_ne : authority≠[]
  authority_free : ∀ c∈authority, c ≠ '/' ∧ c ≠ '?'
  path_slash : path=[] ∨ path.head?=some '/'
  path_free : '?'∉path

namespace AbsoluteUrl

/-- The query with its question mark. -/
def queryText (url : AbsoluteUrl) : Token := (url.query.map ('?'::·)).getD []

/-- The URL as it is written. -/
def text (url : AbsoluteUrl) : Token :=
  url.scheme++ ':':: '/':: '/'::(url.authority++(url.path++url.queryText))

/-- The path of the URL. -/
def endpoint (url : AbsoluteUrl) : Token := if url.path=[] then ['/'] else url.path

/-- path_from is left with what follows the authority. -/
theorem pathFrom_text (url : AbsoluteUrl) :
    HttpClient.pathFrom url.text=
      if (url.path++url.queryText).dropWhile (· ≠ '/')=[] then ['/']
      else ((url.path++url.queryText).dropWhile (· ≠ '/')).takeWhile (· ≠ '?') := by
  have hscheme : url.text.dropWhile (· ≠ ':')=
      ':':: '/':: '/'::(url.authority++(url.path++url.queryText)) := by
    rw [text,List.dropWhile_append_of_pos fun c hc => by simpa using (url.scheme_free c hc).1]
    rfl
  have hauthority : (url.authority++(url.path++url.queryText)).dropWhile (· ≠ '/')=
      (url.path++url.queryText).dropWhile (· ≠ '/') :=
    List.dropWhile_append_of_pos fun c hc => by simpa using (url.authority_free c hc).1
  unfold HttpClient.pathFrom
  dsimp only
  rw [hscheme,if_neg (by simp [text]),if_neg (List.cons_ne_nil _ _),if_neg (by simp)]
  rw [List.drop_succ_cons,List.drop_succ_cons,List.drop_succ_cons,List.drop_zero,hauthority]

/-- A URL with a path gives its path. -/
theorem pathFrom_of_path {url : AbsoluteUrl} (h : url.path≠[]) :
    HttpClient.pathFrom url.text=url.path := by
  obtain ⟨rest,hpath⟩ : ∃ rest,url.path= '/'::rest := by
    have hslash := url.path_slash.resolve_left h
    cases hcases : url.path with
    | nil => exact absurd hcases h
    | cons first rest =>
      rw [hcases] at hslash
      exact ⟨rest,by rw [Option.some.inj hslash]⟩
  have hkept : (url.path++url.queryText).dropWhile (· ≠ '/')=url.path++url.queryText := by
    rw [hpath]
    rfl
  have hquery : url.queryText.takeWhile (· ≠ '?')=[] := by
    rw [queryText]
    cases url.query <;> rfl
  rw [pathFrom_text,hkept,if_neg (by simp [h]),
    List.takeWhile_append_of_pos (decide_ne_of_not_mem url.path_free),hquery,List.append_nil]

/-- A URL without a path gives what is searched for in its query. -/
theorem pathFrom_of_no_path {url : AbsoluteUrl} (h : url.path=[]) :
    HttpClient.pathFrom url.text=
      if (url.query.getD []).dropWhile (· ≠ '/')=[] then ['/']
      else ((url.query.getD []).dropWhile (· ≠ '/')).takeWhile (· ≠ '?') := by
  have hquery : url.queryText.dropWhile (· ≠ '/')=(url.query.getD []).dropWhile (· ≠ '/') := by
    rw [queryText]
    cases url.query <;> rfl
  rw [pathFrom_text,h,List.nil_append,hquery]

end AbsoluteUrl

/-- What is promised of path_from. -/
def PathContract (url : AbsoluteUrl) : Prop :=
  (searchPath url.text).path=url.endpoint ∧
    ∀ iterator∈(searchPath url.text).iterators,iterator≤url.text.length

/-- The first slash of a query is followed by nothing or by a question mark. -/
def SlashEndsQuery (query : Token) : Prop :=
  ∀ c∈((query.dropWhile (· ≠ '/')).drop 1).head?, c= '?'

/-- The path of the URL is returned when there is one, and else when no slash
of the query is taken for the beginning of a path. -/
theorem pathContract_iff (url : AbsoluteUrl) :
    PathContract url ↔ url.path≠[] ∨ ∀ query∈url.query,SlashEndsQuery query := by
  rw [PathContract,searchPath_path,and_iff_left (searchPath_iterators url.text)]
  by_cases hpath : url.path=[]
  swap
  · exact iff_of_true (by rw [AbsoluteUrl.pathFrom_of_path hpath,AbsoluteUrl.endpoint,if_neg hpath])
      (Or.inl hpath)
  rw [AbsoluteUrl.pathFrom_of_no_path hpath,AbsoluteUrl.endpoint,if_pos hpath,
    or_iff_right (not_not.mpr hpath)]
  cases url.query with
  | none => simp
  | some query =>
    simp only [Option.getD_some,Option.mem_some_iff,forall_eq',SlashEndsQuery]
    cases hrest : query.dropWhile (· ≠ '/') with
    | nil => simp
    | cons first rest =>
      have hfirst : first= '/' := by
        have hnot := List.head?_dropWhile_not (· ≠ '/') query
        rw [hrest] at hnot
        simpa using hnot
      subst hfirst
      cases rest with
      | nil => simp
      | cons next rest => by_cases hnext : next= '?' <;> simp [hnext]

/-- A URL without a path and with a slash in its query. -/
def slashInQuery : AbsoluteUrl where
  scheme := ['h','t','t','p']
  authority := ['h']
  path := []
  query := some ['x','=','/','y']
  scheme_ne := by simp
  scheme_free := by simp
  authority_ne := by simp
  authority_free := by simp
  path_slash := Or.inl rfl
  path_free := by simp

/-- For http://h?x=/y the end of the query is returned as the path. -/
theorem slashInQuery_is_path :
    (searchPath slashInQuery.text).path=['/','y'] ∧ ¬PathContract slashInQuery := by
  have hpath : (searchPath slashInQuery.text).path=['/','y'] := by decide +kernel
  refine ⟨hpath,fun hcontract => ?_⟩
  have hendpoint := hpath.symm.trans hcontract.1
  revert hendpoint
  decide

end AtlasAgent.UrlPath
