import RiskScreen.Proofs.Document.Built
import RiskScreen.Proofs.Document.Placement
import RiskScreen.Proofs.Path.Grammar

/-!
# What a document keeps of its history

A document that was written from blank holds the placements that survive, and nothing else.
It accepts a further path exactly when the path fits to every placement before it. Both are
invariants of writing; from them the document depends on the survivors alone, and whether a
list of entries can be written does not depend on their order as long as no path leads on
from the end of another.
-/

namespace RiskScreen

open RiskScreen.Path (Segment Fits)
open Node (Accepts leaf? write)

namespace Document

/-- The first transaction as a node, if there is one. -/
def root? (document : Document) : Option Node :=
  document.transactions.head?.map Node.object

/-- The document is what writing the placements one after another leaves. -/
structure Holds (document : Document) (earlier : List Placement) : Prop where
  atMostOne : document.transactions.tail = []
  built : ∀ node, document.root? = some node → node.Built
  leaf : ∀ segments value, leaf? document.root? segments = some value ↔
    ⟨segments, value⟩ ∈ survivors earlier
  accepts : ∀ segments, Accepts document.root? segments ↔
    ∀ placement ∈ earlier, Fits placement.segments segments

variable {document next : Document} {earlier : List Placement} {entry : Entry}

theorem holds_blank : blank.Holds [] where
  atMostOne := rfl
  built node found := by simp [root?, blank] at found
  leaf segments value := by simp [root?, blank, survivors]
  accepts segments := by simp [root?, blank]

theorem Holds.ordered (holds : document.Holds earlier) : document.Ordered := by
  intro transaction mem
  obtain ⟨transactions⟩ := document
  cases transactions with
  | nil => simp at mem
  | cons fields rest =>
    obtain rfl : rest = [] := holds.atMostOne
    obtain rfl := List.mem_singleton.mp mem
    exact (holds.built _ rfl).ordered

/-! ### One write -/

theorem accepts_root?_iff (document : Document) (name : String) (rest : List Segment) :
    Accepts document.root? (.field name :: rest) ↔
      Accepts (Fields.find? name document.firstTransaction) rest := by
  rw [root?, firstTransaction]
  cases document.transactions.head? <;> exact and_iff_right trivial

theorem write_root? (document : Document) (value : Option String) (name : String)
    (rest : List Segment) :
    write value document.root? (.field name :: rest) =
      .object (Fields.put name (write value (Fields.find? name document.firstTransaction) rest)
        document.firstTransaction) := by
  rw [root?, firstTransaction]
  cases document.transactions.head? <;> rfl

/-- An entry is written if its path can be read and the first transaction accepts it. -/
theorem insert_of_accepts {placement : Placement} (found : entry.placement? = some placement)
    (accepts : Accepts document.root? placement.segments) :
    ∃ next, document.insert entry.path entry.value = (next, none) ∧
      next.transactions.tail = document.transactions.tail ∧
      next.root? = some (write placement.value document.root? placement.segments) := by
  obtain ⟨segments, value⟩ := placement
  obtain ⟨read, rfl⟩ := Entry.placement?_eq_some_iff.mp found
  obtain ⟨name, rest, rfl⟩ := Path.exists_field_of_read read
  rw [accepts_root?_iff] at accepts
  rw [write_root?, insert, read]
  rcases Fields.insertAt_spec entry.path entry.value name rest document.firstTransaction with
    ⟨_, written⟩ | ⟨refuses, _⟩
  · refine ⟨document.setFirstTransaction _, ?_, rfl, rfl⟩
    simp only [insertSegments, Segment.name, written]
  · exact absurd accepts refuses

/-- An entry that is written can be read, and was accepted. -/
theorem accepts_of_insert (h : document.insert entry.path entry.value = (next, none)) :
    ∃ placement, entry.placement? = some placement ∧
      Accepts document.root? placement.segments := by
  rw [insert] at h
  cases read : Path.read entry.path with
  | error e => simp [read] at h
  | ok segments =>
    obtain ⟨name, rest, rfl⟩ := Path.exists_field_of_read read
    refine ⟨⟨.field name :: rest, entry.value⟩, ?_, ?_⟩
    · exact Entry.placement?_eq_some_iff.mpr ⟨read, rfl⟩
    · rw [accepts_root?_iff]
      rcases Fields.insertAt_spec entry.path entry.value name rest document.firstTransaction with
        ⟨accepts, _⟩ | ⟨_, e, stopped⟩
      · exact accepts
      · simp [read, insertSegments, Segment.name, stopped] at h

/-- Writing one more placement keeps the invariant. -/
theorem Holds.write {placement : Placement} (holds : document.Holds earlier)
    (accepts : Accepts document.root? placement.segments)
    (tail : next.transactions.tail = document.transactions.tail)
    (root : next.root? = some (write placement.value document.root? placement.segments)) :
    next.Holds (earlier ++ [placement]) where
  atMostOne := tail.trans holds.atMostOne
  built node found := by
    rw [root] at found
    obtain rfl := Option.some.inj found
    exact Node.built_write placement.value holds.built accepts
  leaf segments value := by
    rw [root, Node.leaf?_write placement.value accepts, mem_survivors_concat_iff]
    by_cases same : placement.segments = segments
    · subst same
      simp [Placement.ext_iff, eq_comm]
    · rw [if_neg same]
      have other : (⟨segments, value⟩ : Placement) ≠ placement := by
        rintro rfl
        exact same rfl
      by_cases above : placement.segments <+: segments
      · simp [above, other]
      · simp [above, other, holds.leaf]
  accepts segments := by
    rw [root, Node.accepts_write_iff placement.value accepts, holds.accepts]
    simp [or_imp, forall_and]

/-- An entry that fits to every placement before it is written, and adds its own. -/
theorem Holds.insert_of_fits {placement : Placement} (holds : document.Holds earlier)
    (found : entry.placement? = some placement)
    (fits : ∀ other ∈ earlier, Fits other.segments placement.segments) :
    ∃ next, document.insert entry.path entry.value = (next, none) ∧
      next.Holds (earlier ++ [placement]) := by
  have accepts := (holds.accepts placement.segments).mpr fits
  obtain ⟨next, written, tail, root⟩ := insert_of_accepts found accepts
  exact ⟨next, written, holds.write accepts tail root⟩

/-- An entry that is written can be read, and fits to every placement before it. -/
theorem Holds.fits_of_insert (holds : document.Holds earlier)
    (h : document.insert entry.path entry.value = (next, none)) :
    ∃ placement, entry.placement? = some placement ∧
      (∀ other ∈ earlier, Fits other.segments placement.segments) ∧
      next.Holds (earlier ++ [placement]) := by
  obtain ⟨placement, found, accepts⟩ := accepts_of_insert h
  have fits := (holds.accepts placement.segments).mp accepts
  obtain ⟨other, written, otherHolds⟩ := holds.insert_of_fits found fits
  rw [h] at written
  obtain rfl := (Prod.mk.inj written).1
  exact ⟨placement, found, fits, otherHolds⟩

/-! ### Writing entries one after another -/

variable {entries others : List Entry} {final : Document}

theorem insertAll_cons_eq_ok_iff :
    document.insertAll (entry :: entries) = .ok final ↔
      ∃ next, document.insert entry.path entry.value = (next, none) ∧
        next.insertAll entries = .ok final := by
  rw [insertAll]
  rcases document.insert entry.path entry.value with ⟨written, stopped⟩
  cases stopped <;> simp

/-- Entries that are written all can be read, and add their placements to what the document
holds. -/
theorem Holds.insertAll (holds : document.Holds earlier)
    (h : document.insertAll entries = .ok final) :
    (∀ entry ∈ entries, ∃ placement, entry.placement? = some placement) ∧
      final.Holds (earlier ++ placements entries) := by
  induction entries generalizing document earlier with
  | nil =>
    obtain rfl := Except.ok.inj h
    simpa [placements] using holds
  | cons entry entries ih =>
    obtain ⟨next, written, rest⟩ := insertAll_cons_eq_ok_iff.mp h
    obtain ⟨placement, found, _, nextHolds⟩ := holds.fits_of_insert written
    obtain ⟨readable, finalHolds⟩ := ih nextHolds rest
    rw [List.append_assoc] at finalHolds
    rw [placements_cons_of_some found]
    exact ⟨List.forall_mem_cons.mpr ⟨⟨placement, found⟩, readable⟩, finalHolds⟩

/-- Entries are written exactly if all can be read and each fits to every placement before it. -/
theorem Holds.insertAll_iff (holds : document.Holds earlier) :
    (∃ final, document.insertAll entries = .ok final) ↔
      (∀ entry ∈ entries, ∃ placement, entry.placement? = some placement) ∧
      (∀ first ∈ earlier, ∀ second ∈ placements entries,
        Fits first.segments second.segments) ∧
      (placements entries).Pairwise fun first second => Fits first.segments second.segments := by
  induction entries generalizing document earlier with
  | nil => simp [Document.insertAll, placements]
  | cons entry entries ih =>
    constructor
    · rintro ⟨final, h⟩
      obtain ⟨next, written, rest⟩ := insertAll_cons_eq_ok_iff.mp h
      obtain ⟨placement, found, fits, nextHolds⟩ := holds.fits_of_insert written
      obtain ⟨readable, across, within⟩ := (ih nextHolds).mp ⟨final, rest⟩
      obtain ⟨acrossEarlier, acrossPlacement⟩ := List.forall_mem_append.mp across
      rw [placements_cons_of_some found]
      refine ⟨List.forall_mem_cons.mpr ⟨⟨placement, found⟩, readable⟩, ?_, ?_⟩
      · intro first mem
        exact List.forall_mem_cons.mpr ⟨fits first mem, acrossEarlier first mem⟩
      · exact List.pairwise_cons.mpr ⟨acrossPlacement placement List.mem_cons_self, within⟩
    · rintro ⟨readable, across, within⟩
      obtain ⟨⟨placement, found⟩, readable⟩ := List.forall_mem_cons.mp readable
      rw [placements_cons_of_some found] at across within
      obtain ⟨acrossPlacement, within⟩ := List.pairwise_cons.mp within
      have fits : ∀ first ∈ earlier, Fits first.segments placement.segments := by
        intro first mem
        exact across first mem placement List.mem_cons_self
      obtain ⟨next, written, nextHolds⟩ := holds.insert_of_fits found fits
      have acrossBoth : ∀ first ∈ earlier ++ [placement], ∀ second ∈ placements entries,
          Fits first.segments second.segments := by
        refine List.forall_mem_append.mpr ⟨?_, List.forall_mem_singleton.mpr acrossPlacement⟩
        intro first mem second secondMem
        exact across first mem second (List.mem_cons_of_mem placement secondMem)
      obtain ⟨final, rest⟩ := (ih nextHolds).mpr ⟨readable, acrossBoth, within⟩
      exact ⟨final, insertAll_cons_eq_ok_iff.mpr ⟨next, written, rest⟩⟩

/-! ### The survivors decide -/

/-- The document is its first transaction, where there is no other one. -/
theorem ext_root? {other : Document} (tail : document.transactions.tail = [])
    (otherTail : other.transactions.tail = []) (root : document.root? = other.root?) :
    document = other := by
  obtain ⟨transactions⟩ := document
  obtain ⟨otherTransactions⟩ := other
  cases transactions <;> cases otherTransactions <;> simp_all [root?]

/-- Documents that hold placements with the same survivors are equal. -/
theorem Holds.eq_of_survivors {other : Document} {otherEarlier : List Placement}
    (holds : document.Holds earlier) (otherHolds : other.Holds otherEarlier)
    (same : ∀ placement, placement ∈ survivors earlier ↔ placement ∈ survivors otherEarlier) :
    document = other := by
  apply ext_root? holds.atMostOne otherHolds.atMostOne
  apply Node.eq_of_leaf? holds.built otherHolds.built
  intro segments
  apply Option.ext
  intro value
  rw [holds.leaf, otherHolds.leaf, same]

/-- Entries of which no path goes on where another one ends are written in every order or
in none. -/
theorem insertAll_perm (perm : entries.Perm others)
    (apart : ∀ first ∈ placements entries, ∀ second ∈ placements entries,
      first.segments <+: second.segments → first.segments = second.segments)
    (h : ∃ final, blank.insertAll entries = .ok final) :
    ∃ final, blank.insertAll others = .ok final := by
  obtain ⟨readable, _, within⟩ := holds_blank.insertAll_iff.mp h
  have placementsPerm : (placements entries).Perm (placements others) := perm.filterMap _
  -- Where no path goes on after the end of another, fitting is symmetric.
  have both : (placements entries).Pairwise fun first second =>
      Fits first.segments second.segments ∧ Fits second.segments first.segments := by
    apply List.Pairwise.imp_of_mem _ within
    intro first second mem secondMem fits
    exact ⟨fits, fits.symm fun above => apart second secondMem first mem above⟩
  have bothOthers := (placementsPerm.pairwise_iff And.symm).mp both
  apply holds_blank.insertAll_iff.mpr
  refine ⟨?_, by simp, bothOthers.imp And.left⟩
  intro entry mem
  exact readable entry (perm.mem_iff.mpr mem)

/-- A document that entries were written into from blank, and so its text, depends on the
survivors among their placements alone. Entries of which no path goes on where another one ends
are all written in every order or in none. -/
theorem insertAll_eq_of_survivors :
    (∀ entries others document otherDocument,
      blank.insertAll entries = .ok document → blank.insertAll others = .ok otherDocument →
      (∀ placement, placement ∈ survivors (placements entries) ↔
        placement ∈ survivors (placements others)) →
      document = otherDocument ∧ document.render = otherDocument.render) ∧
    ∀ entries others : List Entry, entries.Perm others →
      (∀ first ∈ placements entries, ∀ second ∈ placements entries,
        first.segments <+: second.segments → first.segments = second.segments) →
      ((∃ document, blank.insertAll entries = .ok document) ↔
        ∃ document, blank.insertAll others = .ok document) := by
  constructor
  · intro entries others document otherDocument written otherWritten same
    have holds := (holds_blank.insertAll written).2
    have otherHolds := (holds_blank.insertAll otherWritten).2
    obtain rfl := holds.eq_of_survivors otherHolds same
    exact ⟨rfl, rfl⟩
  · intro entries others perm apart
    have placementsPerm : (placements entries).Perm (placements others) := perm.filterMap _
    refine ⟨insertAll_perm perm apart, insertAll_perm perm.symm ?_⟩
    intro first mem second secondMem
    exact apart first (placementsPerm.mem_iff.mpr mem) second (placementsPerm.mem_iff.mpr secondMem)

/-- Two items of an order, the second one written twice. -/
def rewrittenItem : List Entry :=
  [⟨"order->item[1]->sku", some "old"⟩, ⟨"order->item[0]->sku", some "A"⟩,
    ⟨"order->item[1]", some "B"⟩]

/-- The items of an order, the second one first. -/
def itemsBackwards : List Entry :=
  [⟨"order->item[1]", some "B"⟩, ⟨"order->item[0]->sku", some "A"⟩]

theorem insertAll_eq_of_survivors_rewrittenItem :
    ∃ document, blank.insertAll rewrittenItem = .ok document ∧
      blank.insertAll itemsBackwards = .ok document ∧
      ∃ otherDocument, blank.insertAll itemsBackwards.reverse = .ok otherDocument := by
  have written : ∃ document, blank.insertAll rewrittenItem = .ok document := ⟨_, rfl⟩
  have otherWritten : ∃ document, blank.insertAll itemsBackwards = .ok document := ⟨_, rfl⟩
  have remaining : survivors (placements rewrittenItem) =
      (survivors (placements itemsBackwards)).reverse := by decide +kernel
  have apart : ∀ first ∈ placements itemsBackwards, ∀ second ∈ placements itemsBackwards,
      first.segments <+: second.segments → first.segments = second.segments := by decide +kernel
  obtain ⟨document, made⟩ := written
  obtain ⟨otherDocument, otherMade⟩ := otherWritten
  have same := (insertAll_eq_of_survivors.1 rewrittenItem itemsBackwards document otherDocument
    made otherMade (by simp [remaining])).1
  have reversed := (insertAll_eq_of_survivors.2 itemsBackwards itemsBackwards.reverse
    (List.reverse_perm itemsBackwards).symm apart).mp ⟨otherDocument, otherMade⟩
  exact ⟨document, made, same ▸ otherMade, reversed⟩

end Document

end RiskScreen
