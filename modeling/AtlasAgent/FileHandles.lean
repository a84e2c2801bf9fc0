import AtlasAgent.OwnedHandles

/-!
# The handles of files.h

UnixFile, StdIoFile and DirHandle close what they hold when they are destroyed.
A moved-from object is left without a handle, and UnixFile::open closes the
descriptor it replaces. What open, fopen and opendir return is given; the
objects of a program are told apart by their places.
-/

namespace AtlasAgent.FileHandles

open RunHistory HandleLedger OwnedHandles

/-- A handle of the system: a descriptor, a FILE or a DIR. -/
inductive Handle
  | descriptor (fd : ℤ)
  | stream (fp : ℕ)
  | directory (dh : ℕ)
  deriving DecidableEq

/-- UnixFile. -/
structure UnixFile where
  fd : ℤ
  deriving DecidableEq

/-- StdIoFile, its buffer left out. -/
structure StdIoFile where
  /-- Null when there is none. -/
  fp : Option ℕ
  deriving DecidableEq

/-- DirHandle. -/
structure DirHandle where
  /-- Null when there is none. -/
  dh : Option ℕ
  deriving DecidableEq

/-- What happens to handles. -/
abbrev Events := List (HandleEvent Handle)

namespace UnixFile

/-- UnixFile::open, given the result of open. -/
def openName (file : UnixFile) (result : ℤ) : UnixFile×Events :=
  (⟨result⟩,
    (if 0≤file.fd then [.closed (.descriptor file.fd)] else [])++
      (if 0 ≤ result then [.opened (.descriptor result)] else []))

/-- The constructor with a name. -/
def ofName (result : ℤ) : UnixFile×Events := openName ⟨-1⟩ result

/-- The constructor with a descriptor. -/
def ofDescriptor (fd : ℤ) : UnixFile := ⟨fd⟩

/-- The move constructor: the new object, and what is left of the other one. -/
def move (other : UnixFile) : UnixFile×UnixFile := (⟨other.fd⟩,⟨-1⟩)

/-- UnixFile::~UnixFile. -/
def destroy (file : UnixFile) : Events :=
  if 0≤file.fd then [.closed (.descriptor file.fd)] else []

end UnixFile

namespace StdIoFile

/-- The constructor, given the result of fopen. -/
def ofName (result : Option ℕ) : StdIoFile×Events :=
  (⟨result⟩,
    match result with
    | none => []
    | some fp => [.opened (.stream fp)])

/-- The move constructor: the new object, and what is left of the other one. -/
def move (other : StdIoFile) : StdIoFile×StdIoFile := (⟨other.fp⟩,⟨none⟩)

/-- StdIoFile::~StdIoFile. -/
def destroy (file : StdIoFile) : Events :=
  match file.fp with
  | none => []
  | some fp => [.closed (.stream fp)]

end StdIoFile

namespace DirHandle

/-- The constructor, given the result of opendir. -/
def ofName (result : Option ℕ) : DirHandle×Events :=
  (⟨result⟩,
    match result with
    | none => []
    | some dh => [.opened (.directory dh)])

/-- DirHandle::~DirHandle. -/
def destroy (directory : DirHandle) : Events :=
  match directory.dh with
  | none => []
  | some dh => [.closed (.directory dh)]

end DirHandle

/-- An object of one of the three classes. -/
inductive FileObject
  | unixFile (file : UnixFile)
  | stdIoFile (file : StdIoFile)
  | dirHandle (directory : DirHandle)
  deriving DecidableEq

/-- The handle that an object holds. -/
def FileObject.handle : FileObject → Option Handle
  | .unixFile file => if 0≤file.fd then some (.descriptor file.fd) else none
  | .stdIoFile file => file.fp.map .stream
  | .dirHandle directory => directory.dh.map .directory

/-- The destructor of an object. -/
def FileObject.destroy : FileObject → Events
  | .unixFile file => file.destroy
  | .stdIoFile file => file.destroy
  | .dirHandle directory => directory.destroy

/-- The move constructor of an object; DirHandle has none. -/
def FileObject.move : FileObject → Option (FileObject×FileObject)
  | .unixFile file => some (.unixFile file.move.1,.unixFile file.move.2)
  | .stdIoFile file => some (.stdIoFile file.move.1,.stdIoFile file.move.2)
  | .dirHandle _ => none

section Places

variable {ν : Type*} [DecidableEq ν]

/-- The objects that are alive, by their places. -/
abbrev Objects (ν : Type*) := ν → Option FileObject

/-- What a program does with the objects. -/
inductive FileOp (ν : Type*)
  /-- The caller has opened the descriptor that it passes, if it is one. -/
  | unixFileOfDescriptor (place : ν) (fd : ℤ)
  | unixFileOfName (place : ν) (result : ℤ)
  | unixFileOpen (place : ν) (result : ℤ)
  | stdIoFileOfName (place : ν) (result : Option ℕ)
  | dirHandleOfName (place : ν) (result : Option ℕ)
  | moveTo (place source : ν)
  | destroy (place : ν)

/-- One operation. An operation on an object that is not there does nothing. -/
def fileStep (objects : Objects ν) : FileOp ν → Objects ν×Events
  | .unixFileOfDescriptor place fd =>
    (Function.update objects place (some (.unixFile (.ofDescriptor fd))),
      if 0≤fd then [.opened (.descriptor fd)] else [])
  | .unixFileOfName place result =>
    let file := UnixFile.ofName result
    (Function.update objects place (some (.unixFile file.1)),file.2)
  | .unixFileOpen place result =>
    match objects place with
    | some (.unixFile file) =>
      (Function.update objects place (some (.unixFile (file.openName result).1)),
        (file.openName result).2)
    | _ => (objects,[])
  | .stdIoFileOfName place result =>
    let file := StdIoFile.ofName result
    (Function.update objects place (some (.stdIoFile file.1)),file.2)
  | .dirHandleOfName place result =>
    let directory := DirHandle.ofName result
    (Function.update objects place (some (.dirHandle directory.1)),directory.2)
  | .moveTo place source =>
    match (objects source).bind FileObject.move with
    | some (moved,left) =>
      (Function.update (Function.update objects source (some left)) place (some moved),[])
    | none => (objects,[])
  | .destroy place =>
    match objects place with
    | some object => (Function.update objects place none,object.destroy)
    | none => (objects,[])

/-- What the language allows: an object is constructed where none is. -/
def Allowed (objects : Objects ν) : FileOp ν → Prop
  | .unixFileOfDescriptor place _ => objects place=none
  | .unixFileOfName place _ => objects place=none
  | .unixFileOpen _ _ => True
  | .stdIoFileOfName place _ => objects place=none
  | .dirHandleOfName place _ => objects place=none
  | .moveTo place _ => objects place=none
  | .destroy _ => True

instance (objects : Objects ν) : ∀ op,Decidable (Allowed objects op)
  | .unixFileOfDescriptor place _ => inferInstanceAs (Decidable (objects place=none))
  | .unixFileOfName place _ => inferInstanceAs (Decidable (objects place=none))
  | .unixFileOpen _ _ => .isTrue trivial
  | .stdIoFileOfName place _ => inferInstanceAs (Decidable (objects place=none))
  | .dirHandleOfName place _ => inferInstanceAs (Decidable (objects place=none))
  | .moveTo place _ => inferInstanceAs (Decidable (objects place=none))
  | .destroy _ => .isTrue trivial

/-- The objects after the operations. -/
def objectsAfter (ops : List (FileOp ν)) : Objects ν := runState fileStep (fun _ => none) ops

/-- What the operations open and close. -/
def traceOf (ops : List (FileOp ν)) : Events := runOutput fileStep (fun _ => none) ops

/-- What the objects hold. -/
def holds (objects : Objects ν) (place : ν) : Option Handle :=
  (objects place).bind FileObject.handle

/-- Only the handle of the object at the place changes. -/
theorem holds_update (objects : Objects ν) (place : ν) (object : Option FileObject) :
    holds (Function.update objects place object)=
      Function.update (holds objects) place (object.bind FileObject.handle) := by
  funext asked
  by_cases h : asked=place
  · rw [h,Function.update_self,holds,Function.update_self]
  · rw [Function.update_of_ne h,holds,Function.update_of_ne h,holds]

/-- A destructor closes what the object holds. -/
theorem destroy_eq (object : FileObject) :
    object.destroy=object.handle.toList.map .closed := by
  cases object with
  | unixFile file =>
    rw [FileObject.destroy,UnixFile.destroy,FileObject.handle]
    split <;> rfl
  | stdIoFile file =>
    rw [FileObject.destroy,StdIoFile.destroy,FileObject.handle]
    cases file.fp <;> rfl
  | dirHandle directory =>
    rw [FileObject.destroy,DirHandle.destroy,FileObject.handle]
    cases directory.dh <;> rfl

/-- UnixFile::open closes what the object holds and opens what it will hold. -/
theorem openName_eq (file : UnixFile) (result : ℤ) :
    (file.openName result).2=(FileObject.unixFile file).handle.toList.map .closed++
      (FileObject.unixFile (file.openName result).1).handle.toList.map .opened := by
  dsimp only [UnixFile.openName,FileObject.handle]
  congr 1 <;> split <;> rfl

/-- The new object holds what the other one did, which holds nothing any more. -/
theorem move_handle {object moved left : FileObject} (h : object.move=some (moved,left)) :
    moved.handle=object.handle ∧ left.handle=none := by
  cases object with
  | dirHandle directory => cases h
  | _ =>
    obtain ⟨rfl,rfl⟩ := Prod.mk.inj (Option.some.inj h)
    exact ⟨rfl,rfl⟩

/-- Every constructor opens what its object holds. -/
theorem follows_construct {objects : Objects ν} {place : ν} (h : objects place=none)
    (object : FileObject) {events : Events} (hevents : events=object.handle.toList.map .opened) :
    Follows (holds objects) (holds (Function.update objects place (some object))) events := by
  have hnone : holds objects place=none := by rw [holds,h]; rfl
  rw [holds_update,hevents]
  exact follows_opened hnone object.handle

/-- Every operation opens and closes what its objects take and give up. -/
theorem fileStep_follows (objects : Objects ν) (op : FileOp ν) (hallowed : Allowed objects op) :
    Follows (holds objects) (holds (fileStep objects op).1) (fileStep objects op).2 := by
  cases op with
  | unixFileOfDescriptor place fd =>
    refine follows_construct hallowed _ ?_
    dsimp only [fileStep,FileObject.handle,UnixFile.ofDescriptor]
    split <;> rfl
  | unixFileOfName place result =>
    exact follows_construct hallowed _ (openName_eq ⟨-1⟩ result)
  | stdIoFileOfName place result =>
    refine follows_construct hallowed _ ?_
    cases result <;> rfl
  | dirHandleOfName place result =>
    refine follows_construct hallowed _ ?_
    cases result <;> rfl
  | unixFileOpen place result =>
    rw [fileStep]
    split
    · rename_i file hfile
      have hold : holds objects place=(FileObject.unixFile file).handle := by
        rw [holds,hfile,Option.bind_some]
      rw [holds_update,openName_eq,←hold]
      exact follows_replaced (holds objects) place _
    · exact follows_nil
  | moveTo place source =>
    rw [fileStep]
    split
    · rename_i moved left hmove
      obtain ⟨object,hobject,hmove⟩ := Option.bind_eq_some_iff.mp hmove
      obtain ⟨hmoved,hleft⟩ := move_handle hmove
      have hne : place≠source := by
        rintro rfl
        rw [show objects place=none from hallowed] at hobject
        cases hobject
      have hnone : holds objects place=none := by
        rw [holds,show objects place=none from hallowed]
        rfl
      have hold : holds objects source=moved.handle := by
        rw [hmoved,holds,hobject,Option.bind_some]
      rw [holds_update,holds_update,Option.bind_some,Option.bind_some,hleft,←hold]
      exact follows_pass hne hnone
    · exact follows_nil
  | destroy place =>
    rw [fileStep]
    split
    · rename_i object hobject
      have hold : holds objects place=object.handle := by rw [holds,hobject,Option.bind_some]
      rw [holds_update,destroy_eq,←hold]
      exact follows_closed (holds objects) place
    · exact follows_nil

/-- In every order of constructions, moves, reopenings and destructions the
classes close only what is open and have open what their objects hold, each
handle held by one object. When no object is left, every handle has been closed
exactly once for each time it was opened, before the next time. -/
theorem closed_once (ops : List (FileOp ν)) (hallowed : Meets fileStep Allowed (fun _ => none) ops)
    (hfresh : Meets ledgerStep OpensFresh 0 (traceOf ops)) :
    Meets ledgerStep ClosesOpen 0 (traceOf ops) ∧
      Owned (holds (objectsAfter ops)) (openAfter (traceOf ops)) ∧
      ((∀ place,objectsAfter ops place=none) → ∀ handle,
        ∃ count,(traceOf ops).filter (fun event => event.handle=handle)=
          lifetimes handle count) := by
  have hrun := owned_every_run holds fileStep_follows hallowed
  obtain ⟨hcloses,howned,hend⟩ := hrun.from_nothing hfresh
  refine ⟨hcloses,howned,fun hnone => hend fun place => ?_⟩
  have hplace : objectsAfter ops place=none := hnone place
  rw [objectsAfter] at hplace
  rw [holds,hplace,Option.bind_none]

end Places

/-- A descriptor is replaced, moved and closed; its number is used twice. -/
def reopenedAndMoved : List (FileOp Bool) :=
  [.unixFileOfDescriptor false (-1),.unixFileOpen false 3,.unixFileOpen false 4,
    .moveTo true false,.destroy false,.stdIoFileOfName false (some 3),.unixFileOpen true 3,
    .destroy true,.destroy false]

theorem closed_once_reopenedAndMoved :
    ∃ count,(traceOf reopenedAndMoved).filter (fun event => event.handle=.descriptor 3)=
      lifetimes (.descriptor 3) count :=
  (closed_once reopenedAndMoved (by decide) (by decide)).2.2 (by decide) (.descriptor 3)

end AtlasAgent.FileHandles
