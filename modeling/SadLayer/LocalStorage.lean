import Mathlib.Algebra.Order.Ring.Nat
import Mathlib.Logic.Function.Basic
import SadLayer.Library.Run

/-! Thread- and fiber-local storage. The slots are shared and changed by atomic
operations, the values are the context's own; contexts interleave between the
atomic operations of their calls, and a freed slot's callback may make calls itself. -/
namespace SadLayer.LocalStorage

/-- `SL_LOCAL_SLOT_COUNT`. -/
def slotCount : Nat := 256

def tlsOutOfIndexes : Nat := 0xffffffff
def errorSuccess : Nat := 0
def errorNotEnoughMemory : Nat := 8
def errorInvalidParameter : Nat := 87

/-! ### Slots and values -/

/-- `sl_tls_slots` or `sl_fls_slots`. -/
inductive LocalKind where
  | tls
  | fls
  deriving DecidableEq, Repr

structure Key where
  kind : LocalKind
  index : Nat
  deriving DecidableEq, Repr

inductive SlotState where
  | free
  | initializing
  | allocated
  deriving DecidableEq, Repr

/-- `sl_local_slot`. -/
structure LocalSlot where
  state : SlotState := .free
  generation : Nat := 0
  callbackAddress : Nat := 0
  deriving DecidableEq, Repr

/-- `sl_win32_local_value`. -/
structure LocalValue where
  value : Nat := 0
  generation : Nat := 0
  deriving DecidableEq, Repr

/-- What a value is worth under a generation. -/
def LocalValue.under (value : LocalValue) (generation : Nat) : Nat :=
  if value.generation = generation then value.value else 0

/-! ### Calls -/

/-- `local_get` or `local_set` of a value. -/
inductive Access where
  | get
  | set (value : Nat)
  deriving DecidableEq, Repr

/-- What an access does next. The first three are those of `local_generation`. Times are kept of
when it found the slot allocated, in that loop and in its check. -/
inductive AccessPoint where
  | loadBefore
  | loadState (before : Nat)
  | loadAfter (before read : Nat)
  /-- Reads or writes the value. -/
  | touch (generation read : Nat)
  | check (generation value read : Nat)
  | recheck (generation value read checked : Nat)
  /-- Takes a written value back. -/
  | clear
  deriving DecidableEq, Repr

/-- A call, by the atomic operation it does next. -/
inductive Call where
  | allocSearch (kind : LocalKind) (callback index : Nat)
  | allocIncrement (key : Key) (callback : Nat)
  | allocIncrementAgain (key : Key) (callback : Nat)
  | allocStoreCallback (key : Key) (callback : Nat)
  | allocStoreState (key : Key)
  | freeClaim (key : Key)
  | freeLoadGeneration (key : Key) (claimed : Nat)
  | freeLoadCallback (key : Key) (claimed generation value : Nat)
  | freeStoreCallback (key : Key) (claimed generation value callback : Nat)
  | freeStoreState (key : Key)
  | access (access : Access) (key : Key) (point : AccessPoint)
  deriving DecidableEq, Repr

/-- What a call has done. -/
inductive Deed where
  /-- An allocation has taken a free slot. -/
  | reserved
  | allocated (generation : Nat)
  | freed (context generation : Nat)
  /-- A successful set: when it read the generation, and when it read it again. -/
  | set (context generation value read rechecked : Nat)
  | got (context generation value : Nat)
  | calledBack (context generation value : Nat)
  deriving DecidableEq, Repr

/-- A deed with the time at which it took effect. -/
structure Event where
  key : Key
  time : Nat
  deed : Deed
  deriving DecidableEq, Repr

/-- A thread context: its values, the call it is in, and the frees whose callbacks it runs. -/
structure Context where
  values : Key → LocalValue := fun _ => {}
  lastError : Nat := errorSuccess
  current : Option Call := none
  callbacks : List Key := []

structure System where
  slots : Key → LocalSlot := fun _ => {}
  contexts : Nat → Context := fun _ => {}
  clock : Nat := 0
  history : List Event := []

inductive Answer where
  | refused
  | running
  | returned (result : Nat)
  | callback (address value : Nat)
  deriving DecidableEq, Repr

/-- What one operation of a context comes to. -/
structure Outcome where
  slots : Key → LocalSlot
  context : Context
  deed : Option Event := none
  answer : Answer := .running

def Context.goes (context : Context) (call : Call) : Context :=
  { context with current := some call }

def Context.returns (context : Context) : Context :=
  { context with current := none }

/-- The call fails with this error. -/
def Context.fails (context : Context) (error : Nat) : Context :=
  { context with current := none, lastError := error }

def Context.store (context : Context) (key : Key) (value : LocalValue) : Context :=
  { context with values := Function.update context.values key value }

/-- `atomic_fetch_add` on a generation. -/
def LocalSlot.increment (slot : LocalSlot) : LocalSlot :=
  { slot with generation := (slot.generation + 1) % 2 ^ 64 }

/-- How an access fails its check: a set takes its value back first. -/
def Access.failed (access : Access) (key : Key) (slots : Key → LocalSlot) (context : Context) :
    Outcome :=
  match access with
  | .get => {
      slots := slots
      context := context.fails errorInvalidParameter
      answer := .returned 0 }
  | .set _ => { slots := slots, context := context.goes (.access access key .clear) }

/-- One operation of `local_get` or `local_set`, with what they have in common. -/
def accessStep (slots : Key → LocalSlot) (clock number : Nat) (context : Context)
    (access : Access) (key : Key) : AccessPoint → Outcome
  | .loadBefore => {
      slots := slots
      context := context.goes (.access access key (.loadState (slots key).generation)) }
  | .loadState before =>
    if (slots key).state = .allocated then {
      slots := slots
      context := context.goes (.access access key (.loadAfter before clock)) }
    else {
      slots := slots
      context := context.fails errorInvalidParameter
      answer := .returned 0 }
  | .loadAfter before read => {
      slots := slots
      context := context.goes (.access access key
        (if before = (slots key).generation then .touch before read else .loadBefore)) }
  | .touch generation read =>
    match access with
    | .get => {
        slots := slots
        context := context.goes (.access access key
          (.check generation ((context.values key).under generation) read)) }
    | .set value => {
        slots := slots
        context := (context.store key { value := value, generation := generation }).goes
          (.access access key (.check generation value read)) }
  | .check generation value read =>
    if (slots key).state = .allocated then {
      slots := slots
      context := context.goes (.access access key (.recheck generation value read clock)) }
    else access.failed key slots context
  | .recheck generation value read checked =>
    if (slots key).generation = generation then
      match access with
      | .get => {
          slots := slots
          context := { context.returns with lastError := errorSuccess }
          deed := some ⟨key, checked, .got number generation value⟩
          answer := .returned value }
      | .set _ => {
          slots := slots
          context := context.returns
          deed := some ⟨key, checked, .set number generation value read clock⟩
          answer := .returned 1 }
    else access.failed key slots context
  | .clear => {
      slots := slots
      context := (context.store key {}).fails errorInvalidParameter
      answer := .returned 0 }

/-- One atomic operation of a call, with what the context does by itself before the next. -/
def advance (slots : Key → LocalSlot) (clock number : Nat) (context : Context) : Call → Outcome
  | .allocSearch kind callback index =>
    if index < slotCount then
      if (slots ⟨kind, index⟩).state = .free then {
        slots := Function.update slots ⟨kind, index⟩
          { slots ⟨kind, index⟩ with state := .initializing }
        context := context.goes (.allocIncrement ⟨kind, index⟩ callback)
        deed := some ⟨⟨kind, index⟩, clock, .reserved⟩ }
      else {
        slots := slots
        context := context.goes (.allocSearch kind callback (index + 1)) }
    else {
      slots := slots
      context := context.fails errorNotEnoughMemory
      answer := .returned tlsOutOfIndexes }
  | .allocIncrement key callback => {
      slots := Function.update slots key (slots key).increment
      context := context.goes (if (slots key).increment.generation = 0 then
        .allocIncrementAgain key callback else .allocStoreCallback key callback) }
  | .allocIncrementAgain key callback => {
      slots := Function.update slots key (slots key).increment
      context := context.goes (.allocStoreCallback key callback) }
  | .allocStoreCallback key callback => {
      slots := Function.update slots key { slots key with callbackAddress := callback }
      context := context.goes (.allocStoreState key) }
  | .allocStoreState key => {
      slots := Function.update slots key { slots key with state := .allocated }
      context := context.returns
      deed := some ⟨key, clock, .allocated (slots key).generation⟩
      answer := .returned key.index }
  | .freeClaim key =>
    if (slots key).state = .allocated then {
      slots := Function.update slots key { slots key with state := .initializing }
      context := context.goes (.freeLoadGeneration key clock)
      deed := some ⟨key, clock, .freed number (slots key).generation⟩ }
    else {
      slots := slots
      context := context.fails errorInvalidParameter
      answer := .returned 0 }
  | .freeLoadGeneration key claimed => {
      slots := slots
      context := context.goes (.freeLoadCallback key claimed (slots key).generation
        ((context.values key).under (slots key).generation)) }
  | .freeLoadCallback key claimed generation value => {
      slots := slots
      context := (context.store key {}).goes
        (.freeStoreCallback key claimed generation value (slots key).callbackAddress) }
  | .freeStoreCallback key claimed generation value callback =>
    let slots := Function.update slots key { slots key with callbackAddress := 0 }
    if key.kind = .fls ∧ callback ≠ 0 ∧ value ≠ 0 then {
      slots := slots
      context := { context.returns with callbacks := key :: context.callbacks }
      deed := some ⟨key, claimed, .calledBack number generation value⟩
      answer := .callback callback value }
    else {
      slots := slots
      context := context.goes (.freeStoreState key) }
  | .freeStoreState key => {
      slots := Function.update slots key { slots key with state := .free }
      context := context.returns
      answer := .returned 1 }
  | .access access key point => accessStep slots clock number context access key point

/-! ### Runs -/

/-- The calls of `kernel32`. -/
inductive Request where
  | alloc (kind : LocalKind) (callback : Nat)
  | free (key : Key)
  | access (access : Access) (key : Key)
  deriving DecidableEq, Repr

/-- What a call does before its first atomic operation. Thread-local slots have no callback. -/
def start (context : Context) : Request → Context × Answer
  | .alloc .tls _ => (context.goes (.allocSearch .tls 0 0), .running)
  | .alloc .fls callback => (context.goes (.allocSearch .fls callback 0), .running)
  | .free key =>
    if key.index ≥ slotCount then (context.fails errorInvalidParameter, .returned 0)
    else (context.goes (.freeClaim key), .running)
  | .access access key =>
    if key.index ≥ slotCount then (context.fails errorInvalidParameter, .returned 0)
    else (context.goes (.access access key .loadBefore), .running)

/-- A context begins a call, goes on with it, or returns from the callback it runs. -/
inductive Move where
  | start (request : Request)
  | proceed
  | finishCallback
  deriving DecidableEq, Repr

/-- What a move of a context comes to. -/
def Context.move (slots : Key → LocalSlot) (clock number : Nat) (context : Context)
    (move : Move) : Outcome :=
  let idle : Outcome := { slots := slots, context := context, answer := .refused }
  match move, context.current with
  | .start request, none => {
      slots := slots
      context := (start context request).1
      answer := (start context request).2 }
  | .start _, some _ => idle
  | .proceed, none => idle
  | .proceed, some call => advance slots clock number context call
  | .finishCallback, none =>
    match context.callbacks with
    | [] => idle
    | key :: callbacks => {
        slots := slots
        context := { context.goes (.freeStoreState key) with callbacks := callbacks } }
  | .finishCallback, some _ => idle

/-- One step of one context. Every step takes some time, and does at most one thing. -/
def step (s : System) (label : Nat × Move) : System × Answer :=
  let outcome := (s.contexts label.1).move s.slots s.clock label.1 label.2
  ({ slots := outcome.slots
     contexts := Function.update s.contexts label.1 outcome.context
     clock := s.clock + 1
     history := s.history ++ outcome.deed.toList }, outcome.answer)

/-- How often the slot was taken for an allocation. -/
def reservations (history : List Event) (key : Key) : Nat :=
  history.countP fun event => event.key == key && event.deed == .reserved

end SadLayer.LocalStorage
