import AtlasAgent.TextFields
import Mathlib.Data.List.AList
import Mathlib.Data.List.Induction

/-!
# parse_tags

The argument of the option -t is split at commas and blanks, the empty pieces
kept. A piece is a tag if it has an equals sign with something on either side
of the first one; a later tag replaces an earlier one with its key. How tags
may be written, with any separators and anything else between them, is a
relation between the tags and the text.
-/

namespace AtlasAgent.ParseTags

open TextFields

/-- A const char*, up to its terminator. -/
abbrev CString := { text : Token // '\x00' ∉ text }

/-- std::unordered_map < std::string, std::string>. -/
abbrev Tags := AList fun _ : Token => Token

/-- A character of absl::ByAnyChar(", "). -/
def isSeparator (c : Char) : Bool := c= ',' || c= ' '

/-- The body of the loop over the fields. -/
def parseField (tags : Tags) (f : Token) : Tags :=
  if '=' ∈ f then
    let key := f.takeWhile (· ≠ '=')
    let value := (f.dropWhile (· ≠ '=')).drop 1
    if key≠[] ∧ value≠[] then tags.insert key value else tags
  else tags

/-- parse_tags. -/
def parseTags (s : CString) : Tags := (s.val.splitOnP isSeparator).foldl parseField ∅

/-- A tag as it can be written. -/
structure Tag where
  key : Token
  value : Token
  key_ne : key≠[]
  value_ne : value≠[]
  key_free : ∀ c∈key, c ≠ '=' ∧ isSeparator c=false
  value_free : ∀ c∈value,isSeparator c=false

/-- An item that is no tag: without an equals sign, or with nothing before or
nothing after its first one. -/
inductive Junk : Token → Prop
  | noEquals {item : Token} (h : '=' ∉ item) : Junk item
  | emptyKey (value : Token) : Junk ('='::value)
  | emptyValue {key : Token} (h : '=' ∉ key) : Junk (key++['='])

/-- An item between separators, with the tags that it stands for. -/
inductive Item : List Tag → Token → Prop
  | tag (tag : Tag) : Item [tag] (tag.key++ '='::tag.value)
  | junk {item : Token} (hjunk : Junk item) (hfree : ∀ c∈item,isSeparator c=false) : Item [] item

/-- A text in which the tags are written in order. -/
inductive Rendered : List Tag → Token → Prop
  | separators {run : Token} (hrun : ∀ c∈run,isSeparator c=true) : Rendered [] run
  | last {run item : Token} {tags : List Tag} (hrun : ∀ c∈run,isSeparator c=true)
      (hitem : Item tags item) : Rendered tags (run++item)
  | item {run item rest : Token} {c : Char} {tags others : List Tag}
      (hrun : ∀ c∈run,isSeparator c=true) (hitem : Item tags item) (hc : isSeparator c=true)
      (hrest : Rendered others rest) : Rendered (tags++others) (run++item++c::rest)

/-- The tags inserted in order. -/
def insertTags (tags : Tags) (list : List Tag) : Tags :=
  list.foldl (fun tags tag => tags.insert tag.key tag.value) tags

/-- The first equals sign divides a piece. -/
theorem parseField_append {key : Token} (h : '=' ∉ key) (tags : Tags) (value : Token) :
    parseField tags (key++ '='::value)=
      if key≠[] ∧ value≠[] then tags.insert key value else tags := by
  have hkey : (key++ '='::value).takeWhile (· ≠ '=')=key := by
    rw [List.takeWhile_append_of_pos (decide_ne_of_not_mem h)]
    simp
  have hvalue : (key++ '='::value).dropWhile (· ≠ '=')= '='::value := by
    rw [List.dropWhile_append_of_pos (decide_ne_of_not_mem h)]
    simp
  rw [parseField,if_pos (by simp)]
  dsimp only
  rw [hkey,hvalue,List.drop_succ_cons,List.drop_zero]

/-- What is no tag leaves the tags as they are. -/
theorem parseField_junk {item : Token} (h : Junk item) (tags : Tags) :
    parseField tags item=tags := by
  cases h with
  | noEquals h => rw [parseField,if_neg h]
  | emptyKey value =>
    have hfield := @parseField_append [] List.not_mem_nil tags value
    rwa [if_neg fun h => h.1 rfl] at hfield
  | @emptyValue key h =>
    rw [parseField_append h,if_neg fun h => h.2 rfl]

/-- An item is one piece, which inserts its tags. -/
theorem parseField_item {list : List Tag} {item : Token} (h : Item list item) (tags : Tags) :
    parseField tags item=insertTags tags list := by
  cases h with
  | tag tag =>
    rw [parseField_append fun hmem => (tag.key_free _ hmem).1 rfl,
      if_pos ⟨tag.key_ne,tag.value_ne⟩]
    rfl
  | junk hjunk hfree => exact parseField_junk hjunk tags

theorem Item.free {list : List Tag} {item : Token} (h : Item list item) :
    ∀ c∈item,isSeparator c=false := by
  cases h with
  | tag tag =>
    intro c hc
    rcases List.mem_append.mp hc with hc|hc
    · exact (tag.key_free c hc).2
    rcases List.mem_cons.mp hc with rfl|hc
    · rfl
    · exact tag.value_free c hc
  | junk hjunk hfree => exact hfree

/-- The empty pieces between separators are no tags. -/
theorem foldl_parseField_run {run : Token} (hrun : ∀ c∈run,isSeparator c=true) (tags : Tags)
    (text : Token) : ((run++text).splitOnP isSeparator).foldl parseField tags=
      (text.splitOnP isSeparator).foldl parseField tags := by
  induction run with
  | nil => rfl
  | cons c run ih =>
    obtain ⟨hc,hrest⟩ := List.forall_mem_cons.mp hrun
    have hnone : ∀ x∈([] : Token),isSeparator x=false := by simp
    have hsplit : ((c::run)++text).splitOnP isSeparator=[]::(run++text).splitOnP isSeparator :=
      List.splitOnP_append_cons_of_forall_mem hnone c hc (run++text)
    rw [hsplit,List.foldl_cons,parseField_junk (.noEquals List.not_mem_nil),ih hrest]

/-- The tags of a text are inserted in order, whatever is there already. -/
theorem foldl_parseField_rendered {list : List Tag} {text : Token} (h : Rendered list text)
    (tags : Tags) :
    (text.splitOnP isSeparator).foldl parseField tags=insertTags tags list := by
  induction h generalizing tags with
  | @separators run hrun =>
    have hpieces := foldl_parseField_run hrun tags []
    rwa [List.append_nil] at hpieces
  | last hrun hitem =>
    rw [foldl_parseField_run hrun,List.splitOnP_eq_singleton hitem.free]
    exact parseField_item hitem tags
  | item hrun hitem hc hrest ih =>
    rw [List.append_assoc,foldl_parseField_run hrun,
      List.splitOnP_append_cons_of_forall_mem hitem.free _ hc,List.foldl_cons,
      parseField_item hitem,ih,insertTags,insertTags,insertTags,List.foldl_append]

/-- The last tag with a key is the one that is found. -/
theorem lookup_insertTags (tags : Tags) (list : List Tag) (key : Token) :
    (insertTags tags list).lookup key=
      ((list.filter fun tag => tag.key=key).getLast?.map Tag.value).or (tags.lookup key) := by
  induction list using List.reverseRecOn with
  | nil => rfl
  | append_singleton list tag ih =>
    have hlast : insertTags tags (list++[tag])=(insertTags tags list).insert tag.key tag.value := by
      rw [insertTags,List.foldl_append]
      rfl
    rw [hlast,List.filter_append]
    by_cases hkey : tag.key=key
    · rw [List.filter_cons_of_pos (by simpa using hkey),←hkey,AList.lookup_insert]
      simp
    · rw [List.filter_cons_of_neg (by simpa using hkey),List.filter_nil,List.append_nil,←ih,
        AList.lookup_insert_ne (Ne.symm hkey)]

/-- However tags are written, with any separators and any items that are no
tags among them, the result is the map into which they are inserted in order,
so that the last tag of a key is in it. -/
theorem parseTags_rendered {list : List Tag} {s : CString} (h : Rendered list s.val) :
    parseTags s=insertTags ∅ list ∧ ∀ key,(parseTags s).lookup key=
      (list.filter fun tag => tag.key=key).getLast?.map Tag.value := by
  have hparse : parseTags s=insertTags ∅ list := foldl_parseField_rendered h ∅
  refine ⟨hparse,fun key => ?_⟩
  rw [hparse,lookup_insertTags,AList.lookup_empty,Option.or_none]

/-- The tag k with the value v=w. -/
def tagWithEquals : Tag where
  key := ['k']
  value := ['v','=','w']
  key_ne := by simp
  value_ne := by simp
  key_free := by simp [isSeparator]
  value_free := by simp [isSeparator]

/-- The rule at a text with a tag, an item without a value and one without a
key. -/
theorem parseTags_tagWithEquals :
    parseTags ⟨[',','k','=','v','=','w',',',' ','k','=',' ','='],by decide⟩=
      insertTags ∅ [tagWithEquals] := by
  have hcomma : ∀ c∈[','],isSeparator c=true := by simp [isSeparator]
  have hblank : ∀ c∈[' '],isSeparator c=true := by simp [isSeparator]
  have hnoValue : Item [] ['k','='] :=
    .junk (@Junk.emptyValue ['k'] (by decide)) (by simp [isSeparator])
  have hnoKey : Item [] ['='] := .junk (.emptyKey []) (by simp [isSeparator])
  have hnone : ∀ c∈([] : Token),isSeparator c=true := by simp
  exact (parseTags_rendered (.item hcomma (.tag tagWithEquals) rfl
    (.item hblank hnoValue rfl (.last hnone hnoKey)))).1

end AtlasAgent.ParseTags
