import Harvest.Proofs.Crawl.Paging

/-!
Which link leads to the next page.

A page may give a link with any of its records, and with a property. The first record that has one
decides, and the property only where no record has one. So a link that leads nowhere, because it has
no text or a blank one, hides all others; apart from that a link is followed wherever it is known.
Whatever comes of it, the property is used up, and each page that is visited later has to set it
anew.
-/

namespace Harvest.Crawl

open Harvest.Catalog Harvest.Rule Harvest.Script Harvest.Text

/-- The address is the text of the link without the blanks around it, and is not empty. -/
def LeadsTo (link : Value) (address : String) : Prop :=
  ∃ text, link.text? = some text ∧ trim text = address ∧ address ≠ ""

def Knows (records : List Record) (bag : PropertyBag) (address : String) : Prop :=
  (∃ record ∈ records, ∃ link, record.lookup "nextpage" = some link ∧ LeadsTo link address) ∨
    ∃ link, bag.get? "nextpage" = some link ∧ LeadsTo link address

def FirstLinkLeads (records : List Record) : Prop :=
  ∀ earlier record later link, records = earlier ++ record :: later →
    (∀ r ∈ earlier, r.lookup "nextpage" = none) → record.lookup "nextpage" = some link →
    ∃ address, LeadsTo link address

section Links

variable {records : List Record} {bag : PropertyBag} {link : Value} {address : String}

def firstLink? (records : List Record) (bag : PropertyBag) : Option Value :=
  (records.findSome? (·.lookup "nextpage")).or (bag.get? "nextpage")

theorem nextPage?_eq_some_iff :
    nextPage? records bag = some address ↔
      ∃ link, firstLink? records bag = some link ∧ LeadsTo link address := by
  have hleads (link : Option Value) :
      ((link.bind Value.text?).map trim).filter (!·.isEmpty) = some address ↔
        ∃ v, link = some v ∧ LeadsTo v address := by
    cases link with
    | none => simp
    | some v =>
        rw [Option.filter_eq_some_iff]
        simp [LeadsTo, and_assoc, ← exists_and_right]
  exact hleads _

theorem firstLink?_of_record
    (h : records.findSome? (·.lookup "nextpage") = some link) :
    firstLink? records bag = some link := by
  rw [firstLink?, h]
  rfl

theorem firstLink?_of_no_record (h : ∀ record ∈ records, record.lookup "nextpage" = none) :
    firstLink? records bag = bag.get? "nextpage" := by
  rw [firstLink?, List.findSome?_eq_none_iff.mpr h]
  rfl

theorem firstLinkLeads_iff : FirstLinkLeads records ↔
    ∀ link, records.findSome? (·.lookup "nextpage") = some link →
      ∃ address, LeadsTo link address := by
  constructor
  · intro h link hlink
    obtain ⟨earlier, record, later, hrecords, hrecord, hearlier⟩ :=
      List.findSome?_eq_some_iff.mp hlink
    exact h earlier record later link hrecords hearlier hrecord
  · intro h earlier record later link hrecords hearlier hrecord
    exact h link (List.findSome?_eq_some_iff.mpr
      ⟨earlier, record, later, hrecords, hrecord, hearlier⟩)

/-- Only what is known is followed. -/
theorem knows_of_nextPage? (h : nextPage? records bag = some address) :
    Knows records bag address := by
  obtain ⟨link, hlink, hleads⟩ := nextPage?_eq_some_iff.mp h
  cases hfirst : records.findSome? (·.lookup "nextpage") with
  | some first =>
      rw [firstLink?_of_record hfirst] at hlink
      obtain ⟨record, hrecord, hlookup⟩ := List.exists_of_findSome?_eq_some hfirst
      exact .inl ⟨record, hrecord, first, hlookup, Option.some.inj hlink ▸ hleads⟩
  | none =>
      rw [firstLink?_of_no_record (List.findSome?_eq_none_iff.mp hfirst)] at hlink
      exact .inr ⟨link, hlink, hleads⟩

/-- Where the first link leads somewhere, something is followed if anything is known. -/
theorem isSome_nextPage?_of_knows (hfirst : FirstLinkLeads records)
    (h : ∃ address, Knows records bag address) : (nextPage? records bag).isSome = true := by
  rw [Option.isSome_iff_exists]
  cases hlink : records.findSome? (·.lookup "nextpage") with
  | some first =>
      obtain ⟨address, hleads⟩ := firstLinkLeads_iff.mp hfirst first hlink
      exact ⟨address, nextPage?_eq_some_iff.mpr ⟨first, firstLink?_of_record hlink, hleads⟩⟩
  | none =>
      have hnone := List.findSome?_eq_none_iff.mp hlink
      obtain ⟨address, ⟨record, hrecord, link, hlookup, -⟩ | ⟨link, hproperty, hleads⟩⟩ := h
      · rw [hnone record hrecord] at hlookup
        cases hlookup
      · refine ⟨address, nextPage?_eq_some_iff.mpr ⟨link, ?_, hleads⟩⟩
        rw [firstLink?_of_no_record hnone, hproperty]

/-- A first link that leads nowhere hides all others. -/
theorem nextPage?_eq_none_of_not_leads (h : ¬ FirstLinkLeads records) :
    nextPage? records bag = none := by
  obtain ⟨link, hlink, hnowhere⟩ : ∃ link, records.findSome? (·.lookup "nextpage") = some link ∧
      ¬ ∃ address, LeadsTo link address := by
    simpa [firstLinkLeads_iff] using h
  refine Option.eq_none_iff_forall_ne_some.mpr fun address hsome => hnowhere ?_
  obtain ⟨link', hlink', hleads⟩ := nextPage?_eq_some_iff.mp hsome
  rw [firstLink?_of_record hlink] at hlink'
  exact ⟨address, Option.some.inj hlink' ▸ hleads⟩

end Links

/-- What it comes to when the link to the next page is taken out of records and properties. -/
structure LinkTaken (records : List Record) (before : Progress) (next : Option String)
    (after : Progress) : Prop where
  known : ∀ address, next = some address → Knows records before.session.bag address
  /-- A link is taken exactly if one is known, unless the first record that has one hides it. -/
  taken_iff : FirstLinkLeads records →
    (next.isSome = true ↔ ∃ address, Knows records before.session.bag address)
  hidden : ¬ FirstLinkLeads records → next = none
  /-- The property is used up. -/
  gone : after.session.bag.get? "nextpage" = none
  others : ∀ name, name ≠ "nextpage" → after.session.bag.get? name = before.session.bag.get? name
  rest : after = { before with session := { before.session with bag := after.session.bag } }

theorem linkTaken (records : List Record) (before : Progress) :
    ∃ next after, takeNextPage records before = (.ok next, after) ∧
      LinkTaken records before next after := by
  refine ⟨nextPage? records before.session.bag,
    { before with session := { before.session with bag := before.session.bag.erase "nextpage" } },
    rfl, ?_⟩
  exact {
    known := fun _ => knows_of_nextPage?
    taken_iff := fun hfirst => by
      refine ⟨fun hsome => ?_, isSome_nextPage?_of_knows hfirst⟩
      obtain ⟨address, haddress⟩ := Option.isSome_iff_exists.mp hsome
      exact ⟨address, knows_of_nextPage? haddress⟩
    hidden := nextPage?_eq_none_of_not_leads
    gone := SortedMap.get?_erase _ _
    others := fun _ hname => SortedMap.get?_erase_of_ne _ hname
    rest := rfl }

section Trails

variable {source : Source} {around : Surroundings} {harvesting : Harvesting} {p p' : Progress}
  {results found : ResultList} {more : Nat} {visits : List Visit}

/-- Every page after the first one is visited without the property. -/
theorem Trail.used_up (h : Trail source around harvesting p results more visits found p') :
    visits.IsChain fun _ w => w.start.session.bag.get? "nextpage" = none := by
  induction h with
  | halted _ => exact .nil
  | last _ _ => exact .singleton _
  | @next p p' results found more v visits address hvisits hnext hrest ih =>
      refine List.isChain_cons.mpr ⟨fun w hw => ?_, ih⟩
      rw [hrest.first w hw]
      have hne : "nextpage" ≠ "url" := by decide
      exact (PropertyBag.get?_set_of_ne _ hne _).trans (SortedMap.get?_erase _ _)

end Trails

/-- How pages follow one another: each one after the first is visited without a link left over, and
where the last one is neither the last that is allowed nor enough, and nobody halts the work, its
first link leads nowhere or none is known. -/
structure LinksFollowed (source : Source) (harvesting : Harvesting) (more : Nat)
    (visits : List Visit) (found : ResultList) (stop : Progress) : Prop where
  used_up : visits.IsChain fun _ w => w.start.session.bag.get? "nextpage" = none
  followed : visits.IsChain fun v w => ∃ address,
    Knows (recordsOf v.value) v.stop.session.bag address ∧
      w.start.session.bag.get? "url" = some (.scalar address)
  stopped : stop.crawler.isHalted = true ∨ more < visits.length ∨
    (harvesting = .records ∧ isEnough source found = true) ∨
    ∃ v ∈ visits.getLast?, FirstLinkLeads (recordsOf v.value) →
      ¬ ∃ address, Knows (recordsOf v.value) v.stop.session.bag address

/-- A link to the next page is taken exactly if one is known, as long as the first record that has
one has one that leads somewhere, and it is taken once. -/
theorem next_link_taken_once (source : Source) (around : Surroundings) (harvesting : Harvesting) :
    (∀ records before, ∃ next after, takeNextPage records before = (.ok next, after) ∧
      LinkTaken records before next after) ∧
    ∀ (results : ResultList) (more : Nat) (start : Progress) (found : ResultList)
      (stop : Progress), pages source around harvesting results more start = (.ok found, stop) →
      ∃ visits, Trail source around harvesting start results more visits found stop ∧
        LinksFollowed source harvesting more visits found stop := by
  refine ⟨linkTaken, fun results more start found stop hpages => ?_⟩
  obtain ⟨visits, htrail⟩ := (triple_trail results more start).of_ok rfl hpages
  refine ⟨visits, htrail, ⟨htrail.used_up, htrail.followed.imp ?_, ?_⟩⟩
  · rintro v w ⟨-, address, hnext, hurl⟩
    exact ⟨address, knows_of_nextPage? hnext, hurl⟩
  · obtain hhalted | ⟨v, hv, hnone | hmore | henough⟩ := htrail.last_page
    · exact .inl hhalted
    · refine .inr (.inr (.inr ⟨v, hv, fun hfirst hknown => ?_⟩))
      have hsome := isSome_nextPage?_of_knows hfirst hknown
      rw [Visit.next?] at hnone
      rw [hnone] at hsome
      cases hsome
    · exact .inr (.inl hmore)
    · exact .inr (.inr (.inl henough))

/-- A blank link of the first record hides the link of the second one, and the property. -/
theorem blank_link_hides_others :
    let records : List Record := [[("nextpage", .scalar " ")], [("nextpage", .scalar "?p=2")]]
    let bag : PropertyBag := SortedMap.empty.insert "nextpage" (.scalar "?p=3")
    Knows records bag "?p=2" ∧ Knows records bag "?p=3" ∧ nextPage? records bag = none := by
  intro records bag
  refine ⟨.inl ⟨[("nextpage", .scalar "?p=2")], by simp [records], .scalar "?p=2", rfl, "?p=2", rfl,
    by decide, by decide⟩, .inr ⟨.scalar "?p=3", rfl, "?p=3", rfl, by decide, by decide⟩, by decide⟩

end Harvest.Crawl
