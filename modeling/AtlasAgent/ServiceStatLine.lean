import AtlasAgent.DecimalText
import AtlasAgent.ServiceReads

/-!
# The stat line of a process

A line of /proc/[pid]/stat holds the name the process has chosen for itself,
between parentheses and otherwise unrestricted. The fields after it hold no
closing parenthesis, so that they begin after the last one of the line.
-/

namespace AtlasAgent.ServiceStatLine

open DecimalText NumberText ServiceMonitor ServiceReads TextFields

/-- A field after the name: not empty, without blanks or closing parentheses,
and not made of other spaces alone. -/
structure PostCommField (field : Token) : Prop where
  noBlank : ' ' ∉ field
  noParenthesis : ')' ∉ field
  visible : ∃ c∈field,isSpace c=false

/-- The line "pid (comm) f3 f4 ...". -/
def statLine (pid : ℕ) (comm : Token) (fields : List Token) : Token :=
  Nat.toDigits 10 pid++[' ','(']++comm++[')',' ']++[' '].intercalate fields

/-- A field by its number in the man page, the first after the name being 3. -/
def manField (fields : List Token) (number : ℕ) : Token := fields.getD (number-3) []

/-- The field is a decimal unsigned long. -/
def UnsignedLong (field : Token) (value : ℕ) : Prop := Decimal field value ∧ value < size64

/-- The fields of a line are those after its last closing parenthesis. -/
theorem tokenizePostComm_append (front : Token) {tail : Token} (h : ')' ∉ tail) :
    tokenizePostComm (front++ ')'::tail)=some (strSplitSkipWhitespace ' ' tail) := by
  have hmem : ')'∈front++ ')'::tail := by simp
  have hlast : ((front++ ')'::tail).reverse.takeWhile (· ≠ ')')).reverse=tail := by
    have hnot : ∀ c∈tail.reverse,decide (c≠ ')')=true :=
      decide_ne_of_not_mem fun hmem => h (List.mem_reverse.mp hmem)
    rw [List.reverse_append,List.reverse_cons,List.append_assoc,
      List.takeWhile_append_of_pos hnot]
    simp
  rw [tokenizePostComm,if_pos hmem,hlast]

/-- Fields that are joined by blanks come apart again. -/
theorem strSplitSkipWhitespace_intercalate {fields : List Token} (hne : fields≠[])
    (h : ∀ field∈fields,PostCommField field) :
    strSplitSkipWhitespace ' ' (' '::[' '].intercalate fields)=fields := by
  have hjoin : ' '::[' '].intercalate fields=[' '].intercalate ([]::fields) := by
    rw [List.intercalate_cons_of_ne_nil hne]
    rfl
  have hblank : ∀ field∈[]::fields,' ' ∉ field := by
    intro field hfield
    rcases List.mem_cons.mp hfield with rfl|hfield
    · exact List.not_mem_nil
    · exact (h field hfield).noBlank
  rw [strSplitSkipWhitespace,hjoin,List.splitOn_intercalate ' ' hblank (List.cons_ne_nil _ _),
    List.filter_cons_of_neg (by simp)]
  refine List.filter_eq_self.mpr fun field hfield => ?_
  obtain ⟨c,hc,hspace⟩ := (h field hfield).visible
  rw [Bool.not_eq_true',List.all_eq_false]
  exact ⟨c,hc,by simp [hspace]⟩

/-- A parenthesis in the joined fields is one of a field. -/
theorem not_mem_intercalate {fields : List Token} (h : ∀ field∈fields,PostCommField field) :
    ')' ∉ ' '::[' '].intercalate fields := by
  rw [List.mem_cons,not_or]
  refine ⟨by decide,?_⟩
  induction fields with
  | nil => exact List.not_mem_nil
  | cons field fields ih =>
    have hrest := ih fun other hother => h other (List.mem_cons_of_mem _ hother)
    have hfield := (h field List.mem_cons_self).noParenthesis
    cases fields with
    | nil => rwa [List.intercalate_singleton]
    | cons other fields =>
      rw [List.intercalate_cons_cons]
      simp only [List.mem_append,not_or,List.mem_singleton]
      exact ⟨⟨hfield,by decide⟩,hrest⟩

/-- The name has no influence on the fields. -/
theorem tokenizePostComm_statLine (pid : ℕ) (comm : Token) {fields : List Token}
    (hne : fields≠[]) (h : ∀ field∈fields,PostCommField field) :
    tokenizePostComm (statLine pid comm fields)=some fields := by
  have hline : statLine pid comm fields=
      (Nat.toDigits 10 pid++[' ','(']++comm)++ ')':: ' '::[' '].intercalate fields := by
    simp [statLine]
  rw [hline,tokenizePostComm_append _ (not_mem_intercalate h),
    strSplitSkipWhitespace_intercalate hne h]

theorem stoulRead_unsignedLong {field : Token} {value : ℕ} (h : UnsignedLong field value) :
    stoulRead field=.ok value := by
  rw [stoulRead,h.1.stoul h.2]
  rfl

/-- Both times are read from the man-page fields 14 and 15. -/
theorem parseProcessTimes_statLine (pid : ℕ) (comm : Token) {fields : List Token}
    (more : List Token) {uTime sTime : ℕ} (hlength : 22≤fields.length)
    (h : ∀ field∈fields,PostCommField field) (hu : UnsignedLong (manField fields 14) uTime)
    (hs : UnsignedLong (manField fields 15) sTime) :
    parseProcessTimes (statLine pid comm fields::more)=.ok (some ⟨uTime,sTime⟩) := by
  have hne : fields≠[] := by
    rintro rfl
    exact absurd hlength (by decide)
  have hcount : ¬fields.length ≤ sTimeIndex := by rw [sTimeIndex]; omega
  have hline : vectorAt (statLine pid comm fields::more) 0=.ok (statLine pid comm fields) := rfl
  rw [parseProcessTimes,hline]
  dsimp only [bind,Except.bind]
  rw [tokenizePostComm_statLine pid comm hne h]
  dsimp only
  rw [if_neg hcount,show fields.getD uTimeIndex []=manField fields 14 from rfl,
    show fields.getD sTimeIndex []=manField fields 15 from rfl,stoulRead_unsignedLong hu,
    stoulRead_unsignedLong hs]
  rfl

/-- The resident set size is read from the man-page field 24. -/
theorem parseRss_statLine (pid : ℕ) (comm : Token) {fields : List Token} (more : List Token)
    {rss : ℕ} (hlength : 22≤fields.length) (h : ∀ field∈fields,PostCommField field)
    (hrss : UnsignedLong (manField fields 24) rss) :
    parseRss (statLine pid comm fields::more)=.ok (some rss) := by
  have hne : fields≠[] := by
    rintro rfl
    exact absurd hlength (by decide)
  have hcount : ¬fields.length ≤ rssIndex := by rw [rssIndex]; omega
  have hline : vectorAt (statLine pid comm fields::more) 0=.ok (statLine pid comm fields) := rfl
  rw [parseRss,hline]
  dsimp only [bind,Except.bind]
  rw [tokenizePostComm_statLine pid comm hne h]
  dsimp only
  rw [if_neg hcount,show fields.getD rssIndex []=manField fields 24 from rfl,
    stoulRead_unsignedLong hrss]
  rfl

/-- For every name a process can have, the values are those of the man-page
fields 14, 15 and 24; and on no lines whatever does an exception escape. -/
theorem stat_line_parsers_exact_and_total :
    (∀ (pid : ℕ) (comm : Token) (fields more : List Token) (uTime sTime rss : ℕ),
      22≤fields.length → (∀ field∈fields,PostCommField field) →
      UnsignedLong (manField fields 14) uTime → UnsignedLong (manField fields 15) sTime →
      UnsignedLong (manField fields 24) rss →
        parseProcessTimes (statLine pid comm fields::more)=.ok (some ⟨uTime,sTime⟩) ∧
          parseRss (statLine pid comm fields::more)=.ok (some rss)) ∧
    ∀ lines : List Token,Total (parseProcessTimes lines) ∧ Total (parseRss lines) := by
  constructor
  · intro pid comm fields more uTime sTime rss hlength h hu hs hrss
    exact ⟨parseProcessTimes_statLine pid comm more hlength h hu hs,
      parseRss_statLine pid comm more hlength h hrss⟩
  · exact fun lines => ⟨total_catchNone _,total_catchNone _⟩

/-- The fields of a process at rest: 22 of them, with three counters. -/
def restingFields : List Token :=
  ["S".toList,"1".toList,"7".toList]++List.replicate 8 "0".toList++
    ["31".toList,"5".toList]++List.replicate 8 "0".toList++["2048".toList]

/-- A process that calls itself ") 9 (" is read like any other. -/
theorem stat_line_parsers_hostile_name :
    parseProcessTimes [statLine 42 ") 9 (".toList restingFields]=.ok (some ⟨31,5⟩) ∧
      parseRss [statLine 42 ") 9 (".toList restingFields]=.ok (some 2048) := by
  have hfield : ∀ field∈restingFields,' ' ∉ field ∧ ')' ∉ field ∧
      (field.any fun c => !isSpace c)=true := by decide +kernel
  have hfields : ∀ field∈restingFields,PostCommField field := by
    intro field hmem
    obtain ⟨hblank,hclose,hany⟩ := hfield field hmem
    obtain ⟨c,hc,hspace⟩ := List.any_eq_true.mp hany
    exact ⟨hblank,hclose,c,hc,by rwa [Bool.not_eq_true'] at hspace⟩
  have huser : UnsignedLong (manField restingFields 14) 31 :=
    ⟨⟨by decide,List.all_eq_true.mp (by decide),by decide⟩,by decide⟩
  have hsystem : UnsignedLong (manField restingFields 15) 5 :=
    ⟨⟨by decide,List.all_eq_true.mp (by decide),by decide⟩,by decide⟩
  have hrss : UnsignedLong (manField restingFields 24) 2048 :=
    ⟨⟨by decide,List.all_eq_true.mp (by decide),by decide⟩,by decide⟩
  exact stat_line_parsers_exact_and_total.1 42 ") 9 (".toList restingFields [] 31 5 2048
    (by decide) hfields huser hsystem hrss

end AtlasAgent.ServiceStatLine
