import AtlasAgent.MountInfo

/-!
# Paths in mountinfo

The kernel writes blanks, tabs, line breaks and backslashes of a path as octal
escapes. The path that get_mount_points stores is a word of the line: it is not
decoded, and it ends at any other character that operator>> takes for a space.
filter_interesting_mount_points takes its length and update_stats_for passes it
to statvfs as it is.
-/

namespace AtlasAgent.MountEscapes

open MountInfo MountPoints NumberText SpacedText StreamText TextFields WhileLoop

/-- A character as the kernel writes it. -/
def escapeChar (c : Char) : Token :=
  if c= ' ' then "\\040".toList
  else if c= '\t' then "\\011".toList
  else if c= '\n' then "\\012".toList
  else if c= '\\' then "\\134".toList
  else [c]

/-- A path as the kernel writes it. -/
def escape (path : Token) : Token := path.flatMap escapeChar

/-- A mount, its mount point being the real path, as a line of mountinfo. -/
def written (mount : MountLine) : MountLine :=
  { mount with mountPoint := escape mount.mountPoint }

/-- A mount at an absolute path, with other fields as proc(5) has them. -/
structure RealMount (mount : MountLine) : Prop where
  absolute : mount.mountPoint.head?=some '/'
  noNull : '\x00' ∉ mount.mountPoint
  fields : ∀ field∈[mount.root,mount.options,mount.fsType,mount.source,
    mount.superOptions]++mount.optional,field≠[] ∧ ' ' ∉ field ∧ '\n' ∉ field
  noDash : ∀ field∈mount.options::mount.optional,'-' ∉ field
  unspaced : ∀ field∈[mount.root,mount.fsType,mount.source],∀ c∈field,isSpace c=false

/-- No character of the path is escaped or ends a word. -/
def Plain (path : Token) : Prop := ∀ c∈path, c ≠ '\\' ∧ isSpace c=false

/-- The mount is stored, among what the lines before and after it give by
themselves, under its real path, which is then the one that has its length
compared and is passed to statvfs. -/
def PathKept (container : Bool) (filesystems : Option Token) (before : List MountLine)
    (mount : MountLine) (after : List MountLine) (final : Bool) : Prop :=
  ∃ earlier mp later,
    GetMountPoints container filesystems (some (mountinfo (before.map written) true)) earlier ∧
    GetMountPoints container filesystems (some (mountinfo (after.map written) final)) later ∧
    GetMountPoints container filesystems
      (some (mountinfo ((before++mount::after).map written) final)) (earlier++mp::later) ∧
    mp.mountPoint=mount.mountPoint ∧ pathLength mp=mount.mountPoint.length ∧
    cStr mp.mountPoint=mount.mountPoint

theorem escape_cons (c : Char) (path : Token) : escape (c::path)=escapeChar c++escape path := rfl

/-- A character that is not escaped stands for itself. -/
theorem escapeChar_of_ne {c : Char} (h : c ≠ '\\' ∧ c ≠ ' ' ∧ c ≠ '\t' ∧ c ≠ '\n') :
    escapeChar c=[c] := by
  rw [escapeChar,if_neg h.2.1,if_neg h.2.2.1,if_neg h.2.2.2,if_neg h.1]

/-- An escape has four characters, none of them a space. -/
theorem escapeChar_cases (c : Char) :
    (escapeChar c=[c] ∧ c ≠ '\\' ∧ c ≠ ' ' ∧ c ≠ '\t' ∧ c ≠ '\n') ∨
      ((c= '\\' ∨ c= ' ' ∨ c= '\t' ∨ c= '\n') ∧ (escapeChar c).length=4 ∧
        ∀ d∈escapeChar c,isSpace d=false) := by
  by_cases h : c= '\\' ∨ c= ' ' ∨ c= '\t' ∨ c= '\n'
  · refine Or.inr ⟨h,?_⟩
    rcases h with rfl|rfl|rfl|rfl
    · exact ⟨rfl,noSpace_of_all rfl⟩
    · exact ⟨rfl,noSpace_of_all rfl⟩
    · exact ⟨rfl,noSpace_of_all rfl⟩
    · exact ⟨rfl,noSpace_of_all rfl⟩
  · simp only [not_or] at h
    exact Or.inl ⟨escapeChar_of_ne h,h⟩

/-- A space that is left in an escaped path is one of the path that the kernel
does not escape. -/
theorem space_of_mem_escape {path : Token} {c : Char} (hc : c∈escape path)
    (hspace : isSpace c=true) : c∈path ∧ c ≠ ' ' ∧ c ≠ '\t' ∧ c ≠ '\n' := by
  obtain ⟨d,hd,hmem⟩ := List.mem_flatMap.mp hc
  obtain ⟨hsame,hne⟩|⟨-,-,hvisible⟩ := escapeChar_cases d
  · rw [hsame,List.mem_singleton] at hmem
    subst hmem
    exact ⟨hd,hne.2⟩
  · rw [hvisible c hmem] at hspace
    cases hspace

theorem blank_not_mem_escape (path : Token) : ' ' ∉ escape path :=
  fun h => (space_of_mem_escape h (by decide)).2.1 rfl

theorem break_not_mem_escape (path : Token) : '\n' ∉ escape path :=
  fun h => (space_of_mem_escape h (by decide)).2.2.2 rfl

/-- A path that the kernel escapes gets longer. -/
theorem length_escape (path : Token) : path.length≤(escape path).length ∧
    (escape path=path ∨ path.length<(escape path).length) := by
  induction path with
  | nil => exact ⟨le_rfl,Or.inl rfl⟩
  | cons c path ih =>
    rw [escape_cons,List.length_append,List.length_cons]
    obtain ⟨hle,hrest⟩ := ih
    obtain ⟨hsame,-⟩|⟨-,hfour,-⟩ := escapeChar_cases c
    · rw [hsame,List.length_singleton]
      refine ⟨by omega,?_⟩
      rcases hrest with hrest|hrest
      · exact Or.inl (by rw [hrest]; rfl)
      · exact Or.inr (by omega)
    · rw [hfour]
      exact ⟨by omega,Or.inr (by omega)⟩

/-- The kernel writes exactly those paths as they are that need no escape. -/
theorem escape_eq_iff (path : Token) :
    escape path=path ↔ ∀ c∈path, c ≠ '\\' ∧ c ≠ ' ' ∧ c ≠ '\t' ∧ c ≠ '\n' := by
  induction path with
  | nil => simp [escape]
  | cons c path ih =>
    rw [List.forall_mem_cons,←ih,escape_cons]
    obtain ⟨hsame,hne⟩|⟨hescaped,hfour,-⟩ := escapeChar_cases c
    · rw [hsame,and_iff_right hne,List.singleton_append,List.cons.injEq,and_iff_right rfl]
    · refine iff_of_false (fun heq => ?_) fun h => ?_
      · have hlength := congrArg List.length heq
        have hle := (length_escape path).1
        rw [List.length_append,hfour,List.length_cons] at hlength
        omega
      · rcases hescaped with rfl|rfl|rfl|rfl <;> simp at h

section Mount

variable {mount : MountLine}

theorem RealMount.formatted (h : RealMount mount) : (written mount).Formatted where
  fields := by
    have hpath : escape mount.mountPoint≠[] := by
      have hle := (length_escape mount.mountPoint).1
      have habsolute := h.absolute
      intro hnil
      rw [hnil,List.length_nil,Nat.le_zero,List.length_eq_zero_iff] at hle
      rw [hle] at habsolute
      cases habsolute
    intro field hfield
    by_cases hmount : field=escape mount.mountPoint
    · rw [hmount]
      exact ⟨hpath,blank_not_mem_escape _,break_not_mem_escape _⟩
    · refine h.fields field ?_
      simp only [written,List.mem_append,List.mem_cons,List.not_mem_nil,or_false] at hfield ⊢
      tauto
  noDash := h.noDash

theorem RealMount.rootVisible (h : RealMount mount) : Visible (written mount).root :=
  ⟨(h.fields mount.root (by simp)).1,h.unspaced mount.root (by simp)⟩

/-- A mount whose written path is a word is stored under it. -/
theorem RealMount.adds_word (h : RealMount mount) (unwanted : List Token)
    (hword : ∀ c∈escape mount.mountPoint,isSpace c=false) :
    Adds unwanted (written mount)
      (if mount.root="/".toList ∧ mount.fsType∉unwanted then [(written mount).entry] else []) := by
  have hunspaced : (written mount).Unspaced := by
    refine ⟨h.unspaced mount.root (by simp),fun _ field hfield => ?_⟩
    by_cases hmount : field=escape mount.mountPoint
    · rw [hmount]
      exact hword
    · refine h.unspaced field ?_
      simp only [written,List.mem_cons,List.not_mem_nil,or_false] at hfield ⊢
      tauto
  intro rest res
  rw [mountPass_line unwanted h.formatted hunspaced]
  change _=Sum.inl (_,res++if (written mount).root="/".toList ∧ (written mount).fsType∉unwanted
    then [(written mount).entry] else [])
  split
  · rfl
  · rw [List.append_nil]

/-- Two words are read from a text without a line break, and the rest of the
text is then ignored. -/
theorem read_two_words {first second last : Token} (hfirst : ∃ c∈first,isSpace c=false)
    (hsecond : ∃ c∈second,isSpace c=false) (hblank : ∀ c∈second.head?,isSpace c=true)
    (hlast : last≠[]) (hlastBlank : ∀ c∈last.head?,isSpace c=true)
    (hbreak : '\n' ∉ first++second++last) :
    ∃ word other,∀ rest,∃ s s',
      readWord ⟨first++(second++(last++rest)),false,false⟩=(some word,s) ∧
      readWord s=(some other,s') ∧ ignoreUntil '\n' s'=ignoreUntil '\n' ⟨rest,false,false⟩ := by
  have hne : second≠[] := by
    rintro rfl
    obtain ⟨c,hc,-⟩ := hsecond
    cases hc
  obtain ⟨word,after,hafter,hword⟩ := readWord_within hfirst
  have hboth : ∃ c∈after++second,isSpace c=false := by
    obtain ⟨c,hc,hvisible⟩ := hsecond
    exact ⟨c,List.mem_append_right _ hc,hvisible⟩
  obtain ⟨other,left,hleft,hother⟩ := readWord_within hboth
  refine ⟨word,other,fun rest => ⟨_,⟨left++(last++rest),false,false⟩,
    hword (second++(last++rest)) (by simp [hne]) ?_,?_,?_⟩⟩
  · cases second with
    | nil => exact absurd rfl hne
    | cons c second => exact hblank
  · rw [←List.append_assoc after]
    refine hother (last++rest) (by simp [hlast]) ?_
    cases last with
    | nil => exact absurd rfl hlast
    | cons c last => exact hlastBlank
  · rw [←List.append_assoc]
    refine ignoreUntil_append (fun hmem => hbreak ?_) rest
    rcases List.mem_append.mp hmem with hmem|hmem
    · rcases List.mem_append.mp (hleft.mem hmem) with hmem|hmem
      · exact List.mem_append_left _ (List.mem_append_left _ (hafter.mem hmem))
      · exact List.mem_append_left _ (List.mem_append_right _ hmem)
    · exact List.mem_append_right _ hmem

/-- No line break stands behind the path. -/
theorem RealMount.no_break (h : RealMount mount) :
    '\n' ∉ mount.middle ∧ '\n' ∉ ' '::mount.fsType ∧ '\n' ∉ ' '::mount.source ∧
      '\n' ∉ ' '::mount.superOptions := by
  have hbreak := h.formatted.break_not_mem
  refine ⟨fun hmem => hbreak ?_,fun hmem => hbreak ?_,fun hmem => hbreak ?_,
    fun hmem => hbreak ?_⟩
  all_goals simp only [written,MountLine.middle,List.mem_append,List.mem_cons] at hmem ⊢; tauto

/-- A blank and a field of a type or a source have a visible character. -/
theorem RealMount.exists_visible (h : RealMount mount) {field : Token}
    (hfield : field∈[mount.fsType,mount.source]) : ∃ c∈ ' '::field,isSpace c=false := by
  have hfields : field∈[mount.root,mount.options,mount.fsType,mount.source,
      mount.superOptions]++mount.optional := by
    simp only [List.mem_append,List.mem_cons] at hfield ⊢
    tauto
  obtain ⟨c,hc⟩ := List.exists_mem_of_ne_nil _ (h.fields field hfields).1
  exact ⟨c,List.mem_cons_of_mem _ hc,h.unspaced field (List.mem_cons_of_mem _ hfield) c hc⟩

/-- Behind a part of a path, the first ignore leaves two words at least and
more of the line. -/
theorem RealMount.ignoreUntil_dash (h : RealMount mount) {tail : Token} (htail : '\n' ∉ tail) :
    ∃ first second last : Token,(∃ c∈first,isSpace c=false) ∧ (∃ c∈second,isSpace c=false) ∧
      (∀ c∈second.head?,isSpace c=true) ∧ last≠[] ∧ (∀ c∈last.head?,isSpace c=true) ∧
      '\n' ∉ first++second++last ∧ ∀ rest,
        ignoreUntil '-' ⟨tail++mount.middle++ '-'::(' '::mount.fsType++ ' '::mount.source++
          ' '::mount.superOptions++rest),false,false⟩=
            ⟨first++(second++(last++rest)),false,false⟩ := by
  have hfsType := @RealMount.exists_visible _ h mount.fsType (by simp)
  have hsource := @RealMount.exists_visible _ h mount.source (by simp)
  have hblank : ∀ text : Token,∀ c∈(' '::text).head?,isSpace c=true := by
    rintro text c ⟨rfl⟩
    decide
  have hdash := h.formatted.dash_not_mem_middle
  change '-' ∉ mount.middle at hdash
  have hmiddle := h.no_break
  by_cases hmem : '-' ∈ tail
  · -- the ignore stops inside the path
    obtain ⟨before,after,rfl,hbefore⟩ := List.eq_append_cons_of_mem hmem
    refine ⟨after++mount.middle++['-'],' '::mount.fsType,
      ' '::mount.source++ ' '::mount.superOptions,⟨'-',by simp,by decide⟩,hfsType,hblank _,by simp,
      hblank _,?_,fun rest => ?_⟩
    · have hafter : '\n' ∉ after := fun hmem => htail (by simp [hmem])
      simp only [List.mem_append,List.mem_singleton,not_or]
      exact ⟨⟨⟨⟨hafter,hmiddle.1⟩,by decide⟩,hmiddle.2.1⟩,hmiddle.2.2.1,hmiddle.2.2.2⟩
    · simp only [List.append_assoc,List.cons_append]
      rw [ignoreUntil_append hbefore,ignoreUntil_cons]
      rfl
  · refine ⟨' '::mount.fsType,' '::mount.source,' '::mount.superOptions,hfsType,hsource,hblank _,
      List.cons_ne_nil _ _,hblank _,?_,fun rest => ?_⟩
    · simp only [List.mem_append,not_or]
      exact ⟨⟨hmiddle.2.1,hmiddle.2.2.1⟩,hmiddle.2.2.2⟩
    · have hfree : '-' ∉ tail++mount.middle := by
        rw [List.mem_append,not_or]
        exact ⟨hmem,hdash⟩
      rw [ignoreUntil_append hfree,ignoreUntil_cons]
      simp only [List.append_assoc,List.cons_append]

/-- A written path with a space begins with a word in front of it. -/
theorem RealMount.exists_word (h : RealMount mount)
    (hspace : ∃ c∈escape mount.mountPoint,isSpace c=true) :
    ∃ word c tail,escape mount.mountPoint=word++c::tail ∧ Visible word ∧ isSpace c=true := by
  obtain ⟨tail,hstart⟩ : ∃ tail,escape mount.mountPoint= '/'::tail := by
    have habsolute := h.absolute
    cases hpath : mount.mountPoint with
    | nil =>
      rw [hpath] at habsolute
      cases habsolute
    | cons c path =>
      rw [hpath] at habsolute
      obtain rfl : c= '/' := Option.some.inj habsolute
      exact ⟨escape path,escape_cons _ _⟩
  obtain ⟨word,rest,hword,hrest,hsplit⟩ := exists_firstWord (show isSpace '/'=false by decide) tail
  rw [hstart,hsplit] at hspace ⊢
  cases rest with
  | nil =>
    obtain ⟨c,hc,hcSpace⟩ := hspace
    rw [List.append_nil] at hc
    rw [hword.noSpace c hc] at hcSpace
    cases hcSpace
  | cons c tail => exact ⟨word,c,tail,rfl,hword,hrest c rfl⟩

/-- A kept mount whose written path has a space in it: the path ends there, and
the line is still read to its end. -/
theorem RealMount.keptMount_cut (h : RealMount mount) (unwanted : List Token)
    {word tail : Token} {c : Char} (hpath : escape mount.mountPoint=word++c::tail)
    (hvisible : Visible word) (hc : isSpace c=true) : ∃ added,
      (∀ mp∈added,∀ c∈mp.mountPoint,isSpace c=false) ∧
      ∀ rest res,keptMount unwanted mount.deviceMajor mount.deviceMinor
        ⟨' '::(escape mount.mountPoint++mount.middle++
          '-':: ' '::mount.fsType++ ' '::mount.source++ ' '::mount.superOptions++rest),
          false,false⟩ res=(ignoreUntil '\n' ⟨rest,false,false⟩,res++added) := by
  have htail : '\n' ∉ c::tail := fun hmem =>
    break_not_mem_escape mount.mountPoint (hpath ▸ List.mem_append_right _ hmem)
  obtain ⟨first,second,last,hfirst,hsecond,hblank,hlast,hlastBlank,hbreak,hignore⟩ :=
    h.ignoreUntil_dash htail
  obtain ⟨fsType,device,hwords⟩ := read_two_words hfirst hsecond hblank hlast hlastBlank hbreak
  refine ⟨if fsType∈unwanted then []
    else [⟨mount.deviceMajor,mount.deviceMinor,word,device,fsType⟩],?_,fun rest res => ?_⟩
  · intro mp hmp
    split at hmp
    · cases hmp
    · rw [List.mem_singleton.mp hmp]
      exact hvisible.noSpace
  · obtain ⟨s,s',hfsType,hdevice,hend⟩ := hwords rest
    have hblank : ∀ c∈[' '],isSpace c=true := List.forall_mem_singleton.mpr (by decide)
    have hread := readWord_visible hblank
      hvisible (c::tail++mount.middle++ '-'::(' '::mount.fsType++ ' '::mount.source++
        ' '::mount.superOptions++rest)) (by rintro d ⟨rfl⟩; exact hc)
    rw [hpath,keptMount]
    simp only [List.append_assoc,List.cons_append,List.nil_append] at hread hignore ⊢
    rw [hread]
    dsimp only
    rw [List.isEmpty_cons,hignore,hfsType]
    dsimp only
    rw [hdevice]
    dsimp only
    rw [hend]
    by_cases hunwanted : fsType∈unwanted
    · simp [hunwanted]
    · simp [hunwanted]

/-- A mount whose written path has a space in it is stored under a path without
one, if at all; its line is read to the end in any case. -/
theorem RealMount.adds_cut (h : RealMount mount) (unwanted : List Token)
    (hspace : ∃ c∈escape mount.mountPoint,isSpace c=true) :
    ∃ added,Adds unwanted (written mount) added ∧
      ∀ mp∈added,∀ c∈mp.mountPoint,isSpace c=false := by
  by_cases hroot : mount.root="/".toList
  · obtain ⟨word,c,tail,hpath,hvisible,hc⟩ := h.exists_word hspace
    obtain ⟨added,hadded,hkept⟩ := h.keptMount_cut unwanted hpath hvisible hc
    refine ⟨added,fun rest res => ?_,hadded⟩
    rw [mountPass_text unwanted h.formatted h.rootVisible,
      if_pos (show (written mount).root="/".toList from hroot)]
    exact congrArg _ (hkept rest res)
  · refine ⟨[],fun rest res => ?_,fun mp hmp => absurd hmp List.not_mem_nil⟩
    rw [mountPass_text unwanted h.formatted h.rootVisible,
      if_neg (show (written mount).root≠"/".toList from hroot),List.append_nil]

/-- Every mount adds something or nothing, whatever is around its line. -/
theorem RealMount.exists_adds (h : RealMount mount) (unwanted : List Token) :
    ∃ added,Adds unwanted (written mount) added := by
  by_cases hspace : ∃ c∈escape mount.mountPoint,isSpace c=true
  · obtain ⟨added,hadds,-⟩ := h.adds_cut unwanted hspace
    exact ⟨added,hadds⟩
  · refine ⟨_,h.adds_word unwanted fun c hc => ?_⟩
    by_contra hc'
    exact hspace ⟨c,hc,by simpa using hc'⟩

/-- A line adds one list only. -/
theorem adds_unique {unwanted : List Token} {line : MountLine} {added other : List MountPoint}
    (h : Adds unwanted line added) (h' : Adds unwanted line other) : added=other := by
  have hboth := (h [] []).symm.trans (h' [] [])
  simpa using hboth

/-- A path that is read as one word is written as it is exactly when it is plain. -/
theorem plain_iff_escape_eq {path : Token} (hword : ∀ c∈escape path,isSpace c=false) :
    Plain path ↔ escape path=path := by
  rw [escape_eq_iff]
  constructor
  · intro hplain c hc
    obtain ⟨hslash,hvisible⟩ := hplain c hc
    refine ⟨hslash,?_,?_,?_⟩ <;> rintro rfl <;> exact absurd hvisible (by decide)
  · intro hsame c hc
    refine ⟨(hsame c hc).1,hword c ?_⟩
    rwa [(escape_eq_iff _).mpr hsame]

/-- A wanted mount adds a mount point with its real path alone exactly when the
path is plain. -/
theorem RealMount.adds_path_iff (h : RealMount mount) {unwanted : List Token}
    (hroot : mount.root="/".toList) (hwanted : mount.fsType∉unwanted) :
    (∃ mp,Adds unwanted (written mount) [mp] ∧ mp.mountPoint=mount.mountPoint) ↔
      Plain mount.mountPoint := by
  by_cases hspace : ∃ c∈escape mount.mountPoint,isSpace c=true
  · obtain ⟨added,hadds,hvisible⟩ := h.adds_cut unwanted hspace
    obtain ⟨c,hc,hcSpace⟩ := hspace
    have hpath := (space_of_mem_escape hc hcSpace).1
    refine iff_of_false ?_ fun hplain => by simp [(hplain c hpath).2] at hcSpace
    rintro ⟨mp,hmp,hsame⟩
    have hadded := adds_unique hmp hadds
    have hnone := hvisible mp (hadded ▸ List.mem_singleton.mpr rfl) c (hsame ▸ hpath)
    rw [hnone] at hcSpace
    cases hcSpace
  · have hword : ∀ c∈escape mount.mountPoint,isSpace c=false := fun c hc => by
      by_contra hc'
      exact hspace ⟨c,hc,by simpa using hc'⟩
    have hadds := h.adds_word unwanted hword
    rw [if_pos ⟨hroot,hwanted⟩] at hadds
    rw [plain_iff_escape_eq hword]
    constructor
    · rintro ⟨mp,hmp,hpath⟩
      rw [List.singleton_inj.mp (adds_unique hmp hadds)] at hpath
      exact hpath
    · exact fun hsame => ⟨_,hadds,hsame⟩

end Mount

/-- What mounts add to the result of the loop. -/
theorem exists_adds_all {mounts : List MountLine} (h : ∀ mount∈mounts,RealMount mount)
    (unwanted : List Token) :
    ∃ added,List.Forall₂ (Adds unwanted) (mounts.map written) added := by
  induction mounts with
  | nil => exact ⟨[],.nil⟩
  | cons mount mounts ih =>
    obtain ⟨hmount,hmounts⟩ := List.forall_mem_cons.mp h
    obtain ⟨first,hfirst⟩ := hmount.exists_adds unwanted
    obtain ⟨rest,hrest⟩ := ih hmounts
    exact ⟨first::rest,.cons hfirst hrest⟩

/-- Among any mounts, a mount that is wanted is stored, measured and looked up
under its real path exactly when the path has no backslash and no character
that operator>> takes for a space. -/
theorem pathKept_iff (container : Bool) (filesystems : Option Token)
    (before : List MountLine) (mount : MountLine) (after : List MountLine) (final : Bool)
    (hmounts : ∀ other∈before++mount::after,RealMount other) (hroot : mount.root="/".toList)
    (hwanted : mount.fsType∉unwantedFilesystems container filesystems) :
    PathKept container filesystems before mount after final ↔ Plain mount.mountPoint := by
  have hmount : RealMount mount := hmounts mount (by simp)
  have hearly : ∀ other∈before,RealMount other := fun other hother =>
    hmounts other (by simp [hother])
  have hlate : ∀ other∈after,RealMount other := fun other hother =>
    hmounts other (by simp [hother])
  obtain ⟨earlier,hearlier⟩ := exists_adds_all hearly (unwantedFilesystems container filesystems)
  obtain ⟨later,hlater⟩ := exists_adds_all hlate (unwantedFilesystems container filesystems)
  have hbefore := ends_adds hearlier true []
  have hafter := ends_adds hlater final []
  rw [List.nil_append] at hbefore hafter
  -- what the file gives when the mount adds something of its own
  have hwhole : ∀ added,Adds (unwantedFilesystems container filesystems) (written mount) added →
      GetMountPoints container filesystems
        (some (mountinfo ((before++mount::after).map written) final))
        (earlier.flatten++(added++later.flatten)) := by
    intro added hadds
    have hends := ends_adds (List.rel_append hearlier (.cons hadds hlater)) final []
    rw [List.nil_append,List.flatten_append,List.flatten_cons] at hends
    rw [List.map_append,List.map_cons]
    exact hends
  rw [←hmount.adds_path_iff hroot hwanted]
  constructor
  · rintro ⟨earlier',mp,later',hearlier',hlater',hall,hpath,-⟩
    obtain ⟨added,hadds⟩ := hmount.exists_adds (unwantedFilesystems container filesystems)
    have hsame := hall.unique (hwhole added hadds)
    rw [hearlier'.unique hbefore,hlater'.unique hafter,List.append_cancel_left_eq] at hsame
    rw [←List.singleton_append,List.append_cancel_right_eq] at hsame
    exact ⟨mp,hsame ▸ hadds,hpath⟩
  · rintro ⟨mp,hadds,hpath⟩
    refine ⟨_,mp,_,hbefore,hafter,?_,hpath,by rw [pathLength,hpath],?_⟩
    · exact hwhole [mp] hadds
    · rw [hpath]
      exact cStr_noNull hmount.noNull

/-- A mount of a device at a path. -/
def mountAt (path : Token) : MountLine := sampleLine path "ext4".toList

/-- A mount at an absolute path is as proc(5) has it. -/
theorem realMount_mountAt {path : Token} (habsolute : path.head?=some '/')
    (hnull : '\x00' ∉ path) : RealMount (mountAt path) where
  absolute := habsolute
  noNull := hnull
  fields := by
    simp only [mountAt,sampleLine]
    decide
  noDash := by
    simp only [mountAt,sampleLine]
    decide
  unspaced := by
    have hall : ∀ field∈["/".toList,"ext4".toList,"/dev/sda1".toList],
        (field.all fun c => !isSpace c)=true := by decide
    exact fun field hfield => noSpace_of_all (hall field hfield)

/-- The rule at a mount without escapes behind one with a blank in its path. -/
theorem pathKept_after_blank :
    PathKept false none [mountAt "/a b".toList] (mountAt "/data".toList) [] true := by
  refine (pathKept_iff false none [mountAt "/a b".toList] (mountAt "/data".toList) [] true ?_ rfl
    (by decide)).mpr ?_
  · simp only [List.singleton_append,List.forall_mem_cons]
    exact ⟨realMount_mountAt rfl (by decide),realMount_mountAt rfl (by decide),
      List.forall_mem_nil _⟩
  · have hall : ("/data".toList.all fun c => c != '\\' && !isSpace c)=true := by decide
    intro c hc
    have hplain := List.all_eq_true.mp hall c hc
    simpa using hplain

/-- A blank in a path is stored as its escape. -/
theorem blank_stored_escaped :
    RealMount (mountAt "/a b".toList) ∧
      ¬PathKept false none [] (mountAt "/a b".toList) [] true := by
  refine ⟨realMount_mountAt rfl (by decide),?_⟩
  rintro ⟨earlier,mp,later,-,-,hall,hpath,-⟩
  have hstored : GetMountPoints false none (some (mountinfo [written (mountAt "/a b".toList)] true))
      [(mountAt "/a\\040b".toList).entry] := ⟨2,by decide +kernel⟩
  have hsame := hall.unique hstored
  have hmem : mp∈[(mountAt "/a\\040b".toList).entry] := hsame ▸ by simp
  rw [List.mem_singleton.mp hmem] at hpath
  revert hpath
  decide

end AtlasAgent.MountEscapes
