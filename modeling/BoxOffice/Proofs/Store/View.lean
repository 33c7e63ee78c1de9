import Mathlib.Data.List.InsertIdx
import Mathlib.Logic.Function.Basic
import BoxOffice.Store.Tables

/-! What tables show from outside. Of a shelf only the items count, so a key with the empty list shows
like a key without an entry, and ticket numbers on an owner's list are taken in the form that equal
values share. Edits and what takes them back are carried over to views. -/
namespace BoxOffice

namespace Shelf
variable {κ α : Type} [DecidableEq κ]

def keys (t : Shelf κ Raw) (key : κ) : List Raw :=
  (t.items key).map Raw.key

theorem itemsPut (t : Shelf κ α) (key : κ) (list : List α) :
    Shelf.items (t.put key list) = Function.update t.items key list := by
  funext other
  by_cases same : other = key
  · subst other
    simp [Shelf.items, Table.getPutSame]
  · simp [Shelf.items, Table.getPutOther t same, same]

theorem keysPut (t : Shelf κ Raw) (key : κ) (list : List Raw) :
    Shelf.keys (t.put key list) = Function.update t.keys key (list.map Raw.key) := by
  funext other
  rw [keys, itemsPut]
  by_cases same : other = key
  · subst other
    simp
  · simp [same, keys]

end Shelf

structure View where
  events : Table EventId Event
  registrations : Table (EventId × Label) Registration
  attendees : EventId → List Raw
  escrow : Option EscrowConfig
  payments : Table Label Payment
  eventPayments : EventId → List Raw
  revenue : Table EventId Decimal
  tickets : Table Label Ticket
  ownerTickets : Label → List Raw
  eventTickets : EventId → List Raw
  lastPayment : Nat
  lastTicket : Nat

def Tables.view (t : Tables) : View where
  events := t.events
  registrations := t.registrations
  attendees := t.attendees.items
  escrow := t.escrow
  payments := t.payments
  eventPayments := t.eventPayments.items
  revenue := t.revenue
  tickets := t.tickets
  ownerTickets := t.ownerTickets.keys
  eventTickets := t.eventTickets.items
  lastPayment := t.lastPayment
  lastTicket := t.lastTicket

namespace View

def edit (v : View) : Edit → View
  | .event event => { v with events := v.events.put event.id event }
  | .registration label r => { v with registrations := v.registrations.put (r.event, label) r }
  | .attendee event attendee =>
    { v with attendees := Function.update v.attendees event (v.attendees event ++ [attendee]) }
  | .escrow config => { v with escrow := some config }
  | .payment label payment => { v with payments := v.payments.put label payment }
  | .eventPayment event id =>
    { v with eventPayments := Function.update v.eventPayments event (v.eventPayments event ++ [id]) }
  | .revenue event total => { v with revenue := v.revenue.put event total }
  | .ticket label ticket => { v with tickets := v.tickets.put label ticket }
  | .ownTicket owner id =>
    { v with ownerTickets := Function.update v.ownerTickets owner (v.ownerTickets owner ++ [id.key]) }
  | .disownTicket owner position _ =>
    { v with
      ownerTickets :=
        Function.update v.ownerTickets owner ((v.ownerTickets owner).eraseIdx position) }
  | .eventTicket event id =>
    { v with eventTickets := Function.update v.eventTickets event (v.eventTickets event ++ [id]) }
  | .lastPayment id => { v with lastPayment := id }
  | .lastTicket id => { v with lastTicket := id }

def undo (v : View) : Undo → View
  | .event id old => { v with events := v.events.restore id old }
  | .registration key old => { v with registrations := v.registrations.restore key old }
  | .attendee event =>
    { v with attendees := Function.update v.attendees event (v.attendees event).dropLast }
  | .escrow old => { v with escrow := old }
  | .payment label old => { v with payments := v.payments.restore label old }
  | .eventPayment event =>
    { v with eventPayments := Function.update v.eventPayments event (v.eventPayments event).dropLast }
  | .revenue event old => { v with revenue := v.revenue.restore event old }
  | .ticket label old => { v with tickets := v.tickets.restore label old }
  | .ownTicket owner =>
    { v with ownerTickets := Function.update v.ownerTickets owner (v.ownerTickets owner).dropLast }
  | .disownTicket owner position id =>
    { v with
      ownerTickets :=
        Function.update v.ownerTickets owner ((v.ownerTickets owner).insertIdx position id.key) }
  | .eventTicket event =>
    { v with eventTickets := Function.update v.eventTickets event (v.eventTickets event).dropLast }
  | .lastPayment old => { v with lastPayment := old }
  | .lastTicket old => { v with lastTicket := old }

def disowning (v : View) (id : Raw) (owner : Label) : List Edit :=
  match (v.ownerTickets owner).findIdx? (· == id.key) with
  | some position => [.disownTicket owner position id]
  | none => []

end View

namespace Tables

theorem disowningView (t : Tables) (id : Raw) (owner : Label) :
    t.disowning id owner = t.view.disowning id owner := by
  have position : ((t.ownerTickets.items owner).findIdx? fun listed => listed.alike id) =
      (t.view.ownerTickets owner).findIdx? (· == id.key) := by
    simp only [view, Shelf.keys, List.findIdx?_map]
    rfl
  simp only [disowning, position]
  rfl

theorem viewEdit (t : Tables) (e : Edit) : (t.edit e).view = t.view.edit e := by
  cases e <;>
    simp [edit, view, View.edit, Shelf.push, Shelf.takeOut, Shelf.itemsPut, Shelf.keysPut,
      Shelf.keys, List.eraseIdx_map]

theorem viewUndo (t : Tables) (u : Undo) : (t.undo u).view = t.view.undo u := by
  cases u <;>
    simp [undo, view, View.undo, Shelf.pop, Shelf.insert, Shelf.itemsPut, Shelf.keysPut,
      Shelf.keys, List.map_insertIdx]

theorem viewEdits (t : Tables) (edits : List Edit) :
    (edits.foldl edit t).view = edits.foldl View.edit t.view := by
  induction edits generalizing t with
  | nil => rfl
  | cons e rest ih =>
    rw [List.foldl_cons, ih, viewEdit, List.foldl_cons]

theorem viewUndos (t : Tables) (undos : List Undo) :
    (undos.foldl undo t).view = undos.foldl View.undo t.view := by
  induction undos generalizing t with
  | nil => rfl
  | cons u rest ih =>
    rw [List.foldl_cons, ih, viewUndo, List.foldl_cons]

def Fits (t : Tables) : Edit → Prop
  | .disownTicket owner position id => (t.view.ownerTickets owner)[position]? = some id.key
  | _ => True

def FitsAll (t : Tables) : List Edit → Prop
  | [] => True
  | e :: rest => t.Fits e ∧ (t.edit e).FitsAll rest

theorem undoEdit {t : Tables} {e : Edit} (fits : t.Fits e) :
    (t.view.edit e).undo (t.undoing e) = t.view := by
  cases e with
  | disownTicket owner position id =>
    have inside : position < (t.view.ownerTickets owner).length :=
      (List.getElem?_eq_some_iff.mp fits).1
    have there : (t.view.ownerTickets owner)[position] = id.key :=
      (List.getElem?_eq_some_iff.mp fits).2
    have back : ((t.view.ownerTickets owner).eraseIdx position).insertIdx position id.key =
        t.view.ownerTickets owner := by
      rw [← there]
      exact List.insertIdx_eraseIdx_getElem inside
    simp [undoing, View.edit, View.undo, back]
  | _ => simp [undoing, view, View.edit, View.undo, Table.restorePut]

theorem disowningFits (t : Tables) (id : Raw) (owner : Label) : t.FitsAll (t.disowning id owner) := by
  unfold disowning
  split
  · rename_i position found
    obtain ⟨inside, alike, _⟩ := List.findIdx?_eq_some_iff_getElem.mp found
    refine ⟨?_, trivial⟩
    simp [Fits, view, Shelf.keys, List.getElem?_eq_getElem inside, Raw.alikeIffKey.mp alike]
  · trivial

theorem fitsAllConcat {t : Tables} {edits : List Edit} (fits : t.FitsAll edits) {e : Edit}
    (last : ∀ u : Tables, u.Fits e) : t.FitsAll (edits ++ [e]) := by
  induction edits generalizing t with
  | nil => exact ⟨last t, trivial⟩
  | cons first rest ih => exact ⟨fits.1, ih fits.2⟩

theorem fitsAllTake {t : Tables} {edits : List Edit} (fits : t.FitsAll edits) (n : Nat) :
    t.FitsAll (edits.take n) := by
  induction edits generalizing t n with
  | nil => simpa using fits
  | cons first rest ih =>
    cases n with
    | zero => trivial
    | succ n => exact ⟨fits.1, ih fits.2 n⟩

theorem planFits (t : Tables) (c : StoreCall) : t.FitsAll (t.plan c).2 := by
  cases c with
  | moveTicket id source target =>
    simp only [plan]
    split
    · trivial
    · exact disowningFits t id _
    · exact fitsAllConcat (disowningFits t id _) fun _ => trivial
  | _ =>
    simp only [plan]
    repeat' split
    all_goals simp [FitsAll, Fits]

end Tables

/- Answers in the form in which they are compared: equal numbers on a ticket list are one number. -/
def StoreCall.shown : (c : StoreCall) → c.Answer → c.Answer
  | .listOwnerTickets _, ids => List.map Raw.key ids
  | _, answer => answer

namespace Tables

theorem planView {t u : Tables} (same : t.view = u.view) (c : StoreCall) :
    (t.plan c).1.map c.shown = (u.plan c).1.map c.shown ∧ (t.plan c).2 = (u.plan c).2 := by
  have events : t.events = u.events := congrArg View.events same
  have registrations : t.registrations = u.registrations := congrArg View.registrations same
  have attendees : t.attendees.items = u.attendees.items := congrArg View.attendees same
  have escrow : t.escrow = u.escrow := congrArg View.escrow same
  have payments : t.payments = u.payments := congrArg View.payments same
  have eventPayments : t.eventPayments.items = u.eventPayments.items :=
    congrArg View.eventPayments same
  have revenue : t.revenue = u.revenue := congrArg View.revenue same
  have tickets : t.tickets = u.tickets := congrArg View.tickets same
  have eventTickets : t.eventTickets.items = u.eventTickets.items :=
    congrArg View.eventTickets same
  have lastPayment : t.lastPayment = u.lastPayment := congrArg View.lastPayment same
  have lastTicket : t.lastTicket = u.lastTicket := congrArg View.lastTicket same
  cases c with
  | listOwnerTickets owner =>
    refine ⟨?_, rfl⟩
    cases h : Checked.label owner with
    | error failure => simp [plan, h, Except.map]
    | ok label =>
      have keys : (t.ownerTickets.items label).map Raw.key = (u.ownerTickets.items label).map Raw.key :=
        congrFun (congrArg View.ownerTickets same) label
      simp [plan, h, Except.map, StoreCall.shown, keys]
  | _ =>
    simp [plan, events, registrations, attendees, escrow, payments, eventPayments, revenue, tickets,
      eventTickets, lastPayment, lastTicket, disowningView, same]

end Tables
end BoxOffice
