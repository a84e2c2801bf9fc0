import AtlasAgent.CivilTime
import AtlasAgent.DecimalText
import Mathlib.Tactic.Ring

/-!
# Dates of the AWS metadata

getDateFrom reads a member of a JSON document with strptime and timegm. The
result of strptime is not looked at: where the text stops matching, what has
been stored so far is used, and the rest is zero.
-/

namespace AtlasAgent.AwsDates

open CivilTime DecimalText TextFields

/-- The fields of a tm that the format stores, and timegm reads. -/
structure Tm where
  sec : ℕ := 0
  min : ℕ := 0
  hour : ℕ := 0
  mday : ℕ := 0
  /-- Months after January. -/
  mon : ℕ := 0
  /-- Years after 1900. -/
  year : ℤ := 0
  deriving DecidableEq

/-- The conversions of the format. -/
inductive Conversion
  | year | month | day | hour | minute | second
  deriving DecidableEq

/-- The least value a conversion takes. -/
def Conversion.least : Conversion → ℕ
  | .month | .day => 1
  | _ => 0

/-- The largest one. -/
def Conversion.most : Conversion → ℕ
  | .year => 9999
  | .month => 12
  | .day => 31
  | .hour => 23
  | .minute => 59
  | .second => 61

/-- How many digits it takes at most. -/
def Conversion.width : Conversion → ℕ
  | .year => 4
  | _ => 2

/-- Where its value goes. -/
def Conversion.store (tm : Tm) (value : ℕ) : Conversion → Tm
  | .year => { tm with year := value-1900 }
  | .month => { tm with mon := value-1 }
  | .day => { tm with mday := value }
  | .hour => { tm with hour := value }
  | .minute => { tm with min := value }
  | .second => { tm with sec := value }

/-- The digits of a number, as long as another one can fit. -/
def scanDigits (most : ℕ) : ℕ → ℕ → Token → ℕ×Token
  | 0,value,text => (value,text)
  | _+1,value,[] => (value,[])
  | width+1,value,c::text =>
    if value*10 ≤ most ∧ c.isDigit=true then
      scanDigits most width (value*10+(c.toNat-48)) text
    else (value,c::text)

/-- The number of a conversion; blanks may stand in front of it. -/
def scanNumber (conversion : Conversion) (text : Token) : Option (ℕ×Token) :=
  let text := text.dropWhile (· = ' ')
  if text.head?.any Char.isDigit then
    let (value,rest) := scanDigits conversion.most conversion.width 0 text
    if value<conversion.least ∨ conversion.most<value then none else some (value,rest)
  else none

/-- A conversion or a character of the format. -/
inductive FormatItem
  | conversion (conversion : Conversion)
  | character (c : Char)

/-- The format %Y-%m-%dT%TZ. -/
def dateFormat : List FormatItem :=
  [.conversion .year,.character '-',.conversion .month,.character '-',.conversion .day,
    .character 'T',.conversion .hour,.character ':',.conversion .minute,.character ':',
    .conversion .second,.character 'Z']

/-- What strptime leaves in the tm, whether it comes to the end of the format
or not. -/
def strptime : List FormatItem → Token → Tm → Tm
  | [],_,tm => tm
  | .character c::format,text,tm =>
    match text with
    | [] => tm
    | d::text => if c=d then strptime format text tm else tm
  | .conversion conversion::format,text,tm =>
    match scanNumber conversion text with
    | none => tm
    | some (value,text) => strptime format text (conversion.store tm value)

/-- Days of a common year before each of its months. -/
def daysBeforeMonth : List ℤ := [0,31,59,90,120,151,181,212,243,273,304,334]

/-- Days before a day of the year. -/
def yday (tm : Tm) : ℤ :=
  daysBeforeMonth.getD tm.mon 0+(if 2≤tm.mon ∧ Leap (tm.year+1900) then 1 else 0)+tm.mday-1

/-- Days between the epoch and the date of a tm. -/
def daysSinceEpoch (tm : Tm) : ℤ :=
  yday tm+(tm.year-70)*365+(tm.year-69)/4-(tm.year-1)/100+(tm.year+299)/400

/-- timegm. -/
def timegm (tm : Tm) : ℤ :=
  daysSinceEpoch tm*86400+tm.hour*3600+tm.min*60+tm.sec

/-- The time that the text of a date stands for, in seconds after the epoch. -/
def timeFrom (text : Token) : ℤ := timegm (strptime dateFormat text {})

/-- A time of a day. -/
structure TimeOfDay where
  hour : ℕ
  minute : ℕ
  second : ℕ
  hour_lt : hour<24
  minute_lt : minute<60
  second_lt : second<60

/-- The seconds of a day before a time. -/
def TimeOfDay.seconds (time : TimeOfDay) : ℕ := time.hour*3600+time.minute*60+time.second

/-- A date and a time in the ISO format. -/
def isoText (date : Date) (time : TimeOfDay) : Token :=
  padded 4 date.year.toNat++ '-'::(padded 2 date.month++ '-'::(padded 2 date.day++ 'T'::
    (padded 2 time.hour++ ':'::(padded 2 time.minute++ ':'::(padded 2 time.second++['Z'])))))

theorem digitChar_spec : ∀ digit<10,
    (Nat.digitChar digit).isDigit=true ∧ (Nat.digitChar digit).toNat-48=digit := by decide

/-- The digits of a padded number are taken one by one. -/
theorem scanDigits_padded {most width value n : ℕ} (hn : n<10^width)
    (hmost : value*10^width+n ≤ most) (rest : Token) :
    scanDigits most width value (padded width n++rest)=(value*10^width+n,rest) := by
  induction width generalizing value n with
  | zero =>
    obtain rfl : n=0 := by simpa using hn
    rw [padded,List.nil_append,scanDigits,pow_zero,Nat.mul_one,Nat.add_zero]
  | succ width ih =>
    have hpos : 0<10^width := Nat.pos_of_ne_zero (pow_ne_zero _ (by decide))
    have hdigit : n/10^width<10 := by
      rw [Nat.div_lt_iff_lt_mul hpos,Nat.mul_comm,←pow_succ]
      exact hn
    obtain ⟨hisDigit,hvalue⟩ := digitChar_spec _ hdigit
    have hsplit : n/10^width*10^width+n%10^width=n := by
      rw [Nat.mul_comm,Nat.div_add_mod]
    have hparts : (value*10+n/10^width)*10^width+n%10^width=value*10^(width+1)+n :=
      calc (value*10+n/10^width)*10^width+n%10^width
          =value*10^(width+1)+(n/10^width*10^width+n%10^width) := by ring
        _=value*10^(width+1)+n := by rw [hsplit]
    have hle : value*10 ≤ most :=
      calc value*10≤value*10*10^width := Nat.le_mul_of_pos_right _ hpos
        _=value*10^(width+1) := by ring
        _ ≤ most := (Nat.le_add_right _ _).trans hmost
    rw [padded,List.cons_append,scanDigits,if_pos ⟨hle,hisDigit⟩,hvalue,
      ih (Nat.mod_lt _ hpos) (by rw [hparts]; exact hmost),hparts]

/-- A conversion takes a padded number of its width and range. -/
theorem scanNumber_padded {conversion : Conversion} {n : ℕ} (hleast : conversion.least≤n)
    (hmost : n≤conversion.most) (rest : Token) :
    scanNumber conversion (padded conversion.width n++rest)=some (n,rest) := by
  have hn : n<10^conversion.width := by
    refine hmost.trans_lt ?_
    cases conversion <;> decide
  have hscan : scanDigits conversion.most conversion.width 0 (padded conversion.width n++rest)=
      (n,rest) := by
    rw [scanDigits_padded hn (by omega),Nat.zero_mul,Nat.zero_add]
  obtain ⟨width,hwidth⟩ : ∃ width,conversion.width=width+1 := by
    cases conversion <;> exact ⟨_,rfl⟩
  rw [hwidth] at hn hscan ⊢
  have hdigit : n/10^width<10 := by
    rw [Nat.div_lt_iff_lt_mul (Nat.pos_of_ne_zero (pow_ne_zero _ (by decide))),Nat.mul_comm,
      ←pow_succ]
    exact hn
  obtain ⟨hisDigit,-⟩ := digitChar_spec _ hdigit
  have hblank : Nat.digitChar (n/10^width)≠ ' ' := fun h => by
    rw [h] at hisDigit
    exact absurd hisDigit (by decide)
  rw [scanNumber,padded,List.cons_append,List.dropWhile_cons_of_neg (by simp [hblank])]
  dsimp only
  rw [List.head?_cons,Option.any_some,if_pos hisDigit,hwidth,←List.cons_append,←padded,hscan]
  exact if_neg (by omega)

/-- A conversion and the character after it. -/
theorem strptime_padded (conversion : Conversion) {width n : ℕ} (hwidth : conversion.width=width)
    (hleast : conversion.least≤n) (hmost : n≤conversion.most) (c : Char)
    (format : List FormatItem) (rest : Token) (tm : Tm) :
    strptime (.conversion conversion::.character c::format) (padded width n++c::rest) tm=
      strptime format rest (conversion.store tm n) := by
  rw [strptime,←hwidth,scanNumber_padded hleast hmost]
  dsimp only
  rw [strptime]
  exact if_pos rfl

/-- The tm of a date and a time. -/
def tmOf (date : Date) (time : TimeOfDay) : Tm where
  sec := time.second
  min := time.minute
  hour := time.hour
  mday := date.day
  mon := date.month-1
  year := date.year-1900

/-- The text of a date and a time is read as what it was written for, whatever
follows it. -/
theorem strptime_isoText {date : Date} (time : TimeOfDay) (hyear : 0≤date.year)
    (hlast : date.year≤9999) (rest : Token) :
    strptime dateFormat (isoText date time++rest) {}=tmOf date time := by
  have hday := date.day_le.trans (monthLength_le date.year date.month)
  have hhour := time.hour_lt
  have hminute := time.minute_lt
  have hsecond := time.second_lt
  have hnat : ((date.year.toNat : ℕ) : ℤ)=date.year := Int.toNat_of_nonneg hyear
  simp only [isoText,List.append_assoc,List.cons_append,List.nil_append,dateFormat]
  rw [strptime_padded .year (rfl : _=4) (Nat.zero_le _) (Int.toNat_le.mpr hlast),
    strptime_padded .month (rfl : _=2) date.month_pos date.month_le,
    strptime_padded .day (rfl : _=2) date.day_pos hday,
    strptime_padded .hour (rfl : _=2) (Nat.zero_le _) (Nat.le_of_lt_succ hhour),
    strptime_padded .minute (rfl : _=2) (Nat.zero_le _) (Nat.le_of_lt_succ hminute),
    strptime_padded .second (rfl : _=2) (Nat.zero_le _) (hsecond.le.trans (by decide))]
  simp only [strptime,Conversion.store,tmOf,hnat]

theorem yday_succ (tm : Tm) : yday { tm with mday := tm.mday+1 }=yday tm+1 := by
  dsimp only [yday]
  push_cast
  ring

/-- The formula of timegm grows by one from each day to the next. -/
theorem daysSinceEpoch_next (date : Date) (time : TimeOfDay) :
    daysSinceEpoch (tmOf date.next time)=daysSinceEpoch (tmOf date time)+1 := by
  obtain ⟨year,month,day,hpos,hle,hday,hlast⟩ := date
  unfold Date.next
  dsimp only
  have hcases : day < monthLength year month ∨ day=monthLength year month := by omega
  rcases hcases with hinner|rfl
  · rw [dif_pos hinner]
    have hyday := yday_succ (tmOf ⟨year,month,day,hpos,hle,hday,hlast⟩ time)
    simp only [tmOf,daysSinceEpoch] at hyday ⊢
    rw [hyday]
    omega
  · rw [dif_neg (lt_irrefl _)]
    by_cases hmonth : month<12
    · rw [dif_pos hmonth]
      simp only [daysSinceEpoch,yday,tmOf,Date.first]
      by_cases hleap : Leap year <;> interval_cases month <;>
        simp [monthLength,daysBeforeMonth,hleap] <;> omega
    · obtain rfl : month=12 := by omega
      rw [dif_neg hmonth]
      simp only [daysSinceEpoch,yday,tmOf,Date.first,Leap]
      simp [monthLength,daysBeforeMonth]
      split <;> omega

/-- No date after the epoch is of a year before it. -/
theorem epoch_year_le (days : ℕ) : 1970≤(Date.after days).year := by
  induction days with
  | zero => exact le_rfl
  | succ days ih =>
    rw [Date.after_succ,Date.next]
    split
    · exact ih
    · split
      · exact ih
      · exact ih.trans (Int.le_add_one le_rfl)

/-- A date and a time of it in their ISO text are read as the seconds since the
epoch: as many days as lie between, day by day, and the time of the day. -/
theorem timeFrom_isoText {days : ℕ} (hlast : (Date.after days).year≤9999) (time : TimeOfDay)
    (rest : Token) :
    timeFrom (isoText (Date.after days) time++rest)=86400*days+time.seconds := by
  have hyear := epoch_year_le days
  have hcount : daysSinceEpoch (tmOf (Date.after days) time)=days :=
    Date.count_after (fun date => daysSinceEpoch (tmOf date time)) rfl
      (fun date => daysSinceEpoch_next date time) days
  rw [timeFrom,strptime_isoText time (by omega) hlast,timegm,hcount,TimeOfDay.seconds]
  simp only [tmOf]
  push_cast
  ring

end AtlasAgent.AwsDates
