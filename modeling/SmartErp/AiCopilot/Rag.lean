import SmartErp.AiCopilot.PiiRedactor
import SmartErp.Failure
import SmartErp.Foundations.Runs
import SmartErp.Foundations.Table

/-!
# Chunks of the operational data

`ingestAll` of `rag.service.ts`. Rows are created and edited between its calls, and between the reads of one.
`sha256` is the digest of the platform, in hexadecimal.
-/

namespace SmartErp.AiCopilot
open Foundations

/-! ## Sources -/

structure Customer where
  id : Uuid
  tenantId : Uuid
  name : String
  address : Option String
  city : Option String
  country : Option String
  deriving DecidableEq

structure Product where
  id : Uuid
  tenantId : Uuid
  sku : String
  description : Option String
  deriving DecidableEq

structure Invoice where
  id : Uuid
  tenantId : Uuid
  number : String
  fiscalYear : ℕ
  /-- In days. -/
  invoiceDate : ℕ
  customerName : String
  totalAmount : Numeric 12 2
  deriving DecidableEq

inductive SourceType where
  | audit
  | customer
  | product
  | invoice
  | supplierInvoice
  deriving DecidableEq

def SourceType.text : SourceType → String
  | audit => "audit"
  | customer => "customer"
  | product => "product"
  | invoice => "invoice"
  | supplierInvoice => "supplier_invoice"

structure Row where
  id : Uuid
  body : String
  deriving DecidableEq

def Customer.row (c : Customer) : Row where
  id := c.id
  body :=
    let address := c.address.getD ""
    let city := c.city.getD ""
    let country := c.country.getD "IT"
    s!"{c.name} — {address} {city} ({country})"

def Product.row (p : Product) : Row where
  id := p.id
  body :=
    let description := p.description.getD ""
    s!"{p.sku} — {description}"

def Invoice.row (i : Invoice) : Row where
  id := i.id
  body := s!"Fattura {i.number}/{i.fiscalYear} — {i.customerName} — {i.totalAmount.text} EUR"

structure Sources where
  customers : Table Customer.id
  products : Table Product.id
  invoices : Table Invoice.id

namespace Sources

def customerRows (s : Sources) (tenantId : Uuid) : List Row :=
  (s.customers.rows.filter (·.tenantId = tenantId)).map (·.row)

def productRows (s : Sources) (tenantId : Uuid) : List Row :=
  (s.products.rows.filter (·.tenantId = tenantId)).map (·.row)

def tenantInvoices (s : Sources) (tenantId : Uuid) : List Invoice :=
  s.invoices.rows.filter (·.tenantId = tenantId)

/-- The latest thousand. -/
def invoiceRows (s : Sources) (tenantId : Uuid) : List Row :=
  (((s.tenantInvoices tenantId).mergeSort fun a b => b.invoiceDate ≤ a.invoiceDate).take 1000).map (·.row)

end Sources

inductive Change where
  | customer (c : Customer)
  | product (p : Product)
  | invoice (i : Invoice)

/-- No edit gives a row to another tenant. -/
def Sources.change (s : Sources) : Change → Sources
  | .customer c => if ∀ old ∈ s.customers.find? c.id, old.tenantId = c.tenantId then
      { s with customers := s.customers.save c } else s
  | .product p => if ∀ old ∈ s.products.find? p.id, old.tenantId = p.tenantId then
      { s with products := s.products.save p } else s
  | .invoice i => if ∀ old ∈ s.invoices.find? i.id, old.tenantId = i.tenantId then
      { s with invoices := s.invoices.save i } else s

/-! ## The store -/

structure RagChunk where
  tenantId : Uuid
  sourceType : SourceType
  sourceId : Uuid
  body : String
  contentHash : String
  deriving DecidableEq

structure Ingest where
  chunks : List RagChunk
  inserted : ℕ
  skipped : ℕ

structure Db where
  sources : Sources
  chunks : List RagChunk

/-- What is created and edited while the rows of a table are ingested, the next table not yet read. -/
structure Meanwhile where
  customers : List Change := []
  products : List Change := []
  invoices : List Change := []

section
variable (sha256 : String → String)

def contentHash (sourceType : SourceType) (id : Uuid) (redacted : String) : String :=
  sha256 s!"{sourceType.text}:{id}:{redacted}"

def ingestRow (tenantId : Uuid) (sourceType : SourceType) (done : Ingest) (r : Row) : Ingest :=
  let redacted := redactPii r.body
  let hash := contentHash sha256 sourceType r.id redacted
  if done.chunks.any fun c => c.tenantId = tenantId ∧ c.sourceType = sourceType ∧ c.sourceId = r.id ∧
      c.contentHash = hash then
    { done with skipped := done.skipped + 1 }
  else
    { done with
      chunks := done.chunks ++ [⟨tenantId, sourceType, r.id, redacted, hash⟩]
      inserted := done.inserted + 1 }

def ingest (tenantId : Uuid) (sourceType : SourceType) (done : Ingest) (rows : List Row) : Ingest :=
  rows.foldl (ingestRow sha256 tenantId sourceType) done

def ingestAll (db : Db) (tenantId : Uuid) (meanwhile : Meanwhile) : Db × Ingest :=
  let sources := db.sources
  let done := ingest sha256 tenantId .customer ⟨db.chunks, 0, 0⟩ (sources.customerRows tenantId)
  let sources := meanwhile.customers.foldl Sources.change sources
  let done := ingest sha256 tenantId .product done (sources.productRows tenantId)
  let sources := meanwhile.products.foldl Sources.change sources
  let done := ingest sha256 tenantId .invoice done (sources.invoiceRows tenantId)
  let sources := meanwhile.invoices.foldl Sources.change sources
  (⟨sources, done.chunks⟩, done)

end

/-! ## One ingest -/

def RagChunk.source (c : RagChunk) : Uuid × SourceType × Uuid := (c.tenantId, c.sourceType, c.sourceId)

def stored (chunks : List RagChunk) (k : Uuid × SourceType × Uuid) : List RagChunk := chunks.filter (·.source = k)

section
variable {sha256 : String → String} {tenantId t : Uuid} {sourceType ty : SourceType} {id : Uuid} {done : Ingest}
  {chunks : List RagChunk} {rows : List Row} {r : Row}

def chunkOf (sha256 : String → String) (tenantId : Uuid) (sourceType : SourceType) (r : Row) : RagChunk where
  tenantId
  sourceType
  sourceId := r.id
  body := redactPii r.body
  contentHash := contentHash sha256 sourceType r.id (redactPii r.body)

def Known (chunks : List RagChunk) (c : RagChunk) : Prop :=
  ∃ old ∈ chunks, old.source = c.source ∧ old.contentHash = c.contentHash

instance (chunks : List RagChunk) (c : RagChunk) : Decidable (Known chunks c) :=
  inferInstanceAs (Decidable (∃ old ∈ chunks, _))

theorem ingestRow_of_known (known : Known done.chunks (chunkOf sha256 tenantId sourceType r)) :
    ingestRow sha256 tenantId sourceType done r = { done with skipped := done.skipped + 1 } := by
  obtain ⟨old, mem, source, hash⟩ := known
  obtain ⟨same, same', same''⟩ : _ ∧ _ ∧ _ := by simpa [RagChunk.source, chunkOf] using source
  apply if_pos
  rw [List.any_eq_true]
  exact ⟨old, mem, decide_eq_true ⟨same, same', same'', hash⟩⟩

theorem ingestRow_of_unknown (unknown : ¬ Known done.chunks (chunkOf sha256 tenantId sourceType r)) :
    ingestRow sha256 tenantId sourceType done r =
      { done with
        chunks := done.chunks ++ [chunkOf sha256 tenantId sourceType r]
        inserted := done.inserted + 1 } := by
  apply if_neg
  rw [List.any_eq_true]
  rintro ⟨old, mem, here⟩
  obtain ⟨same, same', same'', hash⟩ := of_decide_eq_true here
  exact unknown ⟨old, mem, by simp [RagChunk.source, chunkOf, same, same', same''], hash⟩

def refreshed (chunks : List RagChunk) (c : RagChunk) : List RagChunk :=
  if Known chunks c then chunks else chunks ++ [c]

theorem chunks_ingestRow : (ingestRow sha256 tenantId sourceType done r).chunks =
    refreshed done.chunks (chunkOf sha256 tenantId sourceType r) := by
  unfold refreshed
  split_ifs with known
  · rw [ingestRow_of_known known]
  · rw [ingestRow_of_unknown known]

theorem known_stored {c : RagChunk} : Known (stored chunks c.source) c ↔ Known chunks c := by
  constructor
  · rintro ⟨old, mem, same⟩
    exact ⟨old, (List.mem_filter.mp mem).1, same⟩
  · rintro ⟨old, mem, same⟩
    exact ⟨old, List.mem_filter.mpr ⟨mem, by simp [same.1]⟩, same⟩

theorem stored_refreshed (chunks : List RagChunk) (c : RagChunk) (k : Uuid × SourceType × Uuid) :
    stored (refreshed chunks c) k = if c.source = k then refreshed (stored chunks k) c else stored chunks k := by
  by_cases here : c.source = k
  · subst here
    simp only [if_pos, refreshed, known_stored]
    split_ifs
    · rfl
    · simp [stored]
  · rw [if_neg here, refreshed]
    split_ifs
    · rfl
    · simp [stored, here]

theorem ingest_cons : ingest sha256 tenantId sourceType done (r :: rows) =
    ingest sha256 tenantId sourceType (ingestRow sha256 tenantId sourceType done r) rows := rfl

theorem stored_ingest (nodup : (rows.map (·.id)).Nodup) (t : Uuid) (ty : SourceType) (id : Uuid) :
    stored (ingest sha256 tenantId sourceType done rows).chunks (t, ty, id) =
      if t = tenantId ∧ ty = sourceType then
        (rows.find? (·.id = id)).elim (stored done.chunks (t, ty, id)) fun r =>
          refreshed (stored done.chunks (t, ty, id)) (chunkOf sha256 tenantId sourceType r)
      else stored done.chunks (t, ty, id) := by
  induction rows generalizing done with
  | nil => simp [ingest]
  | cons r rows ih =>
      rw [List.map_cons, List.nodup_cons] at nodup
      have step : stored (ingestRow sha256 tenantId sourceType done r).chunks (t, ty, id) =
          if (chunkOf sha256 tenantId sourceType r).source = (t, ty, id) then
            refreshed (stored done.chunks (t, ty, id)) (chunkOf sha256 tenantId sourceType r)
          else stored done.chunks (t, ty, id) := by
        rw [chunks_ingestRow, stored_refreshed]
      rw [ingest_cons, ih nodup.2, step]
      by_cases own : t = tenantId ∧ ty = sourceType
      · obtain ⟨rfl, rfl⟩ := own
        by_cases here : r.id = id
        · subst here
          have none : rows.find? (·.id = r.id) = none := by
            rw [List.find?_eq_none]
            intro r' mem same
            exact nodup.1 (List.mem_map.mpr ⟨r', mem, of_decide_eq_true same⟩)
          simp [none, RagChunk.source, chunkOf]
        · simp [here, RagChunk.source, chunkOf]
      · have other : (chunkOf sha256 tenantId sourceType r).source ≠ (t, ty, id) := by
          simp only [RagChunk.source, chunkOf, ne_eq, Prod.mk.injEq, not_and]
          rintro rfl rfl
          exact absurd ⟨rfl, rfl⟩ own
        rw [if_neg own, if_neg other, if_neg own]

theorem known_mono {c old : RagChunk} (known : Known chunks c) : Known (refreshed chunks old) c := by
  obtain ⟨c', mem, same⟩ := known
  unfold refreshed
  split_ifs
  · exact ⟨c', mem, same⟩
  · exact ⟨c', List.mem_append_left _ mem, same⟩

theorem known_refreshed (chunks : List RagChunk) (c : RagChunk) : Known (refreshed chunks c) c := by
  unfold refreshed
  split_ifs with known
  · exact known
  · exact ⟨c, by simp, rfl, rfl⟩

theorem known_ingest_mono {c : RagChunk} (known : Known done.chunks c) :
    Known (ingest sha256 tenantId sourceType done rows).chunks c := by
  induction rows generalizing done with
  | nil => exact known
  | cons r rows ih =>
      apply ih
      rw [chunks_ingestRow]
      exact known_mono known

theorem known_ingest : ∀ r ∈ rows,
    Known (ingest sha256 tenantId sourceType done rows).chunks (chunkOf sha256 tenantId sourceType r) := by
  induction rows generalizing done with
  | nil => simp
  | cons r rows ih =>
      rw [List.forall_mem_cons]
      rw [ingest_cons]
      refine ⟨?_, ih⟩
      apply known_ingest_mono
      rw [chunks_ingestRow]
      exact known_refreshed done.chunks _

theorem ingest_of_known (known : ∀ r ∈ rows, Known done.chunks (chunkOf sha256 tenantId sourceType r)) :
    (ingest sha256 tenantId sourceType done rows).chunks = done.chunks ∧
      (ingest sha256 tenantId sourceType done rows).inserted = done.inserted := by
  induction rows generalizing done with
  | nil => exact ⟨rfl, rfl⟩
  | cons r rows ih =>
      rw [List.forall_mem_cons] at known
      rw [ingest_cons, ingestRow_of_known known.1]
      exact ih known.2

theorem mem_ingest {c : RagChunk} (mem : c ∈ (ingest sha256 tenantId sourceType done rows).chunks) :
    c ∈ done.chunks ∨ ∃ r ∈ rows, c = chunkOf sha256 tenantId sourceType r := by
  induction rows generalizing done with
  | nil => exact .inl mem
  | cons r rows ih =>
      rcases ih mem with old | ⟨r', later, rfl⟩
      · rw [chunks_ingestRow, refreshed] at old
        split_ifs at old
        · exact .inl old
        · rw [List.mem_append, List.mem_singleton] at old
          exact old.imp_right fun new => ⟨r, List.mem_cons_self, new⟩
      · exact .inr ⟨r', List.mem_cons_of_mem _ later, rfl⟩

end

/-! ## Rows of a table -/

section
variable {ρ : Type} {key : ρ → Uuid}

theorem nodup_filter (table : Table key) (p : ρ → Bool) : ((table.rows.filter p).map key).Nodup :=
  table.nodup.sublist (List.filter_sublist.map key)

theorem find?_rows {table : Table key} {p : ρ → Bool} {row : ρ → Row} (ids : ∀ r, (row r).id = key r) {rs : List ρ}
    (perm : rs.Perm (table.rows.filter p)) (id : Uuid) :
    (rs.map row).find? (·.id = id) = ((table.find? id).filter p).map row := by
  have nodup : (rs.map key).Nodup := (perm.map key).nodup_iff.mpr (nodup_filter table p)
  have found : (⟨rs, nodup⟩ : Table key).find? id = (table.find? id).filter p := by
    ext r
    rw [Option.filter_eq_some_iff]
    constructor
    · intro here
      have mem := List.mem_filter.mp (perm.mem_iff.mp (Table.mem_of_find? here))
      have same := Table.key_of_find? here
      exact ⟨same ▸ Table.find?_of_mem mem.1, mem.2⟩
    · rintro ⟨here, kept⟩
      have mem := perm.mem_iff.mpr (List.mem_filter.mpr ⟨Table.mem_of_find? here, kept⟩)
      have same := Table.key_of_find? here
      subst same
      exact Table.find?_of_mem (t := ⟨rs, nodup⟩) mem
  rw [← found, List.find?_map]
  simp only [Function.comp_def, ids]
  rfl

theorem nodup_rows {table : Table key} {p : ρ → Bool} {row : ρ → Row} (ids : ∀ r, (row r).id = key r) {rs : List ρ}
    (sub : rs.Subperm (table.rows.filter p)) : ((rs.map row).map (·.id)).Nodup := by
  have same : (rs.map row).map (·.id) = rs.map key := by
    rw [List.map_map]
    exact List.map_congr_left fun r _ => ids r
  rw [same]
  obtain ⟨l, perm, sublist⟩ := sub
  exact (perm.map key).nodup_iff.mp ((nodup_filter table p).sublist (sublist.map key))

theorem isSome_of_mem {table : Table key} {p : ρ → Bool} {row : ρ → Row} (ids : ∀ r, (row r).id = key r) {rs : List ρ}
    (sub : rs ⊆ table.rows.filter p) {r : Row} (mem : r ∈ rs.map row) :
    (((table.find? r.id).filter p).map row).isSome = true := by
  obtain ⟨x, inside, rfl⟩ := List.mem_map.mp mem
  obtain ⟨here, kept⟩ := List.mem_filter.mp (sub inside)
  rw [ids, Table.find?_of_mem here]
  simp [kept]

end

namespace Sources

def row? (s : Sources) (tenantId : Uuid) : SourceType → Uuid → Option Row
  | .customer, id => ((s.customers.find? id).filter (·.tenantId = tenantId)).map (·.row)
  | .product, id => ((s.products.find? id).filter (·.tenantId = tenantId)).map (·.row)
  | .invoice, id => ((s.invoices.find? id).filter (·.tenantId = tenantId)).map (·.row)
  | .audit, _ | .supplierInvoice, _ => none

variable {s : Sources} {tenantId : Uuid}

theorem find?_customerRows (id : Uuid) : (s.customerRows tenantId).find? (·.id = id) = s.row? tenantId .customer id :=
  find?_rows (fun _ => rfl) (.refl _) id

theorem find?_productRows (id : Uuid) : (s.productRows tenantId).find? (·.id = id) = s.row? tenantId .product id :=
  find?_rows (fun _ => rfl) (.refl _) id

theorem find?_invoiceRows (few : (s.tenantInvoices tenantId).length ≤ 1000) (id : Uuid) :
    (s.invoiceRows tenantId).find? (·.id = id) = s.row? tenantId .invoice id := by
  apply find?_rows fun _ => rfl
  rw [List.take_of_length_le]
  · exact List.mergeSort_perm _ _
  · rwa [List.length_mergeSort]

theorem nodup_customerRows : ((s.customerRows tenantId).map (·.id)).Nodup :=
  nodup_rows (fun _ => rfl) (List.Subperm.refl _)

theorem nodup_productRows : ((s.productRows tenantId).map (·.id)).Nodup :=
  nodup_rows (fun _ => rfl) (List.Subperm.refl _)

theorem nodup_invoiceRows : ((s.invoiceRows tenantId).map (·.id)).Nodup := by
  apply nodup_rows fun _ => rfl
  exact (List.take_sublist _ _).subperm.trans (List.mergeSort_perm _ _).subperm

theorem isSome_customerRow {r : Row} (mem : r ∈ s.customerRows tenantId) :
    (s.row? tenantId .customer r.id).isSome = true :=
  isSome_of_mem (fun _ => rfl) (List.Subset.refl _) mem

theorem isSome_productRow {r : Row} (mem : r ∈ s.productRows tenantId) :
    (s.row? tenantId .product r.id).isSome = true :=
  isSome_of_mem (fun _ => rfl) (List.Subset.refl _) mem

theorem isSome_invoiceRow {r : Row} (mem : r ∈ s.invoiceRows tenantId) :
    (s.row? tenantId .invoice r.id).isSome = true := by
  refine isSome_of_mem (fun _ => rfl) (fun i here => ?_) mem
  exact (List.mergeSort_perm _ _).subset (List.take_subset _ _ here)

theorem id_of_row? {ty : SourceType} {id : Uuid} {r : Row} (found : s.row? tenantId ty id = some r) : r.id = id := by
  cases ty with
  | customer | product | invoice =>
      obtain ⟨x, here, rfl⟩ := Option.map_eq_some_iff.mp found
      have same := Table.key_of_find? (Option.filter_eq_some_iff.mp here).1
      exact same
  | audit | supplierInvoice => cases found

def Keeps (s s' : Sources) : Prop :=
  ∀ tenantId ty id, (s.row? tenantId ty id).isSome = true → (s'.row? tenantId ty id).isSome = true

theorem filter_save {ρ : Type} {key tenant : ρ → Uuid} {table : Table key} {r : ρ}
    (own : ∀ old ∈ table.find? (key r), tenant old = tenant r) {t id : Uuid}
    (here : ((table.find? id).filter (tenant · = t)).isSome = true) :
    (((table.save r).find? id).filter (tenant · = t)).isSome = true := by
  obtain ⟨old, found⟩ := Option.isSome_iff_exists.mp here
  obtain ⟨found, kept⟩ := Option.filter_eq_some_iff.mp found
  rw [Table.find?_save]
  split_ifs with same
  · subst same
    have tenant : tenant r = t := (own old found).symm.trans (of_decide_eq_true kept)
    simp [tenant]
  · exact here

theorem keeps_change (s : Sources) (c : Change) : Keeps s (s.change c) := by
  intro tenantId ty id here
  cases c with
  | customer c =>
      simp only [change]
      split_ifs with own
      · cases ty with
        | customer =>
            rw [row?, Option.isSome_map] at here ⊢
            exact filter_save own here
        | audit | product | invoice | supplierInvoice => exact here
      · exact here
  | product p =>
      simp only [change]
      split_ifs with own
      · cases ty with
        | product =>
            rw [row?, Option.isSome_map] at here ⊢
            exact filter_save own here
        | audit | customer | invoice | supplierInvoice => exact here
      · exact here
  | invoice i =>
      simp only [change]
      split_ifs with own
      · cases ty with
        | invoice =>
            rw [row?, Option.isSome_map] at here ⊢
            exact filter_save own here
        | audit | customer | product | supplierInvoice => exact here
      · exact here

theorem keeps_changes (s : Sources) (changes : List Change) : Keeps s (changes.foldl change s) := by
  induction changes generalizing s with
  | nil => exact fun _ _ _ here => here
  | cons c changes ih => exact fun t ty id here => ih (s.change c) t ty id (keeps_change s c t ty id here)

end Sources

/-! ## One call -/

namespace Meanwhile

def afterCustomers (m : Meanwhile) (s : Sources) : Sources := m.customers.foldl Sources.change s

def afterProducts (m : Meanwhile) (s : Sources) : Sources := m.products.foldl Sources.change (m.afterCustomers s)

def afterInvoices (m : Meanwhile) (s : Sources) : Sources := m.invoices.foldl Sources.change (m.afterProducts s)

def seen (m : Meanwhile) (s : Sources) : SourceType → Sources
  | .customer => s
  | .product => m.afterCustomers s
  | .invoice => m.afterProducts s
  | .audit | .supplierInvoice => m.afterInvoices s

theorem keeps_seen (m : Meanwhile) (s : Sources) (ty : SourceType) : s.Keeps (m.seen s ty) := by
  have customers := Sources.keeps_changes s m.customers
  have products := Sources.keeps_changes (m.afterCustomers s) m.products
  have invoices := Sources.keeps_changes (m.afterProducts s) m.invoices
  intro t ty' id here
  cases ty with
  | customer => exact here
  | product => exact customers t ty' id here
  | invoice => exact products t ty' id (customers t ty' id here)
  | audit | supplierInvoice => exact invoices t ty' id (products t ty' id (customers t ty' id here))

theorem seen_keeps (m : Meanwhile) (s : Sources) (ty : SourceType) : (m.seen s ty).Keeps (m.afterInvoices s) := by
  have customers := Sources.keeps_changes s m.customers
  have products := Sources.keeps_changes (m.afterCustomers s) m.products
  have invoices := Sources.keeps_changes (m.afterProducts s) m.invoices
  intro t ty' id here
  cases ty with
  | customer => exact invoices t ty' id (products t ty' id (customers t ty' id here))
  | product => exact invoices t ty' id (products t ty' id here)
  | invoice => exact invoices t ty' id here
  | audit | supplierInvoice => exact here

end Meanwhile

section
variable {sha256 : String → String} {db : Db} {tenantId t : Uuid} {m : Meanwhile} {ty : SourceType} {id : Uuid}

theorem sources_ingestAll : (ingestAll sha256 db tenantId m).1.sources = m.afterInvoices db.sources := rfl

theorem stored_ingestAll (sha256 : String → String)
    (few : ((m.afterProducts db.sources).tenantInvoices tenantId).length ≤ 1000)
    (t : Uuid) (ty : SourceType) (id : Uuid) :
    stored (ingestAll sha256 db tenantId m).1.chunks (t, ty, id) =
      if t = tenantId then
        ((m.seen db.sources ty).row? tenantId ty id).elim (stored db.chunks (t, ty, id)) fun r =>
          refreshed (stored db.chunks (t, ty, id)) (chunkOf sha256 tenantId ty r)
      else stored db.chunks (t, ty, id) := by
  have customers : (db.sources.customerRows tenantId).find? (·.id = id) = (m.seen db.sources .customer).row? tenantId
      .customer id := Sources.find?_customerRows id
  have products : ((m.afterCustomers db.sources).productRows tenantId).find? (·.id = id) =
      (m.seen db.sources .product).row? tenantId .product id := Sources.find?_productRows id
  have invoices : ((m.afterProducts db.sources).invoiceRows tenantId).find? (·.id = id) =
      (m.seen db.sources .invoice).row? tenantId .invoice id := Sources.find?_invoiceRows few id
  rw [Meanwhile.afterProducts, Meanwhile.afterCustomers] at invoices
  rw [Meanwhile.afterCustomers] at products
  simp only [ingestAll]
  rw [stored_ingest Sources.nodup_invoiceRows, stored_ingest Sources.nodup_productRows,
    stored_ingest Sources.nodup_customerRows, customers, products, invoices]
  by_cases own : t = tenantId
  · cases ty with
    | customer | product | invoice => simp [own]
    | audit | supplierInvoice => simp [own, Sources.row?]
  · simp [own]

/-- Each chunk carries the hash of its body, and the source it was made of is still there. -/
structure Sound (sha256 : String → String) (db : Db) : Prop where
  hash : ∀ c ∈ db.chunks, c.contentHash = contentHash sha256 c.sourceType c.sourceId c.body
  source : ∀ c ∈ db.chunks, (db.sources.row? c.tenantId c.sourceType c.sourceId).isSome = true

theorem mem_ingestAll {c : RagChunk} (mem : c ∈ (ingestAll sha256 db tenantId m).1.chunks) :
    c ∈ db.chunks ∨ ∃ ty r, c = chunkOf sha256 tenantId ty r ∧
      ((m.seen db.sources ty).row? tenantId ty r.id).isSome = true := by
  rcases mem_ingest mem with mem | ⟨r, row, rfl⟩
  · rcases mem_ingest mem with mem | ⟨r, row, rfl⟩
    · rcases mem_ingest mem with mem | ⟨r, row, rfl⟩
      · exact .inl mem
      · exact .inr ⟨.customer, r, rfl, Sources.isSome_customerRow row⟩
    · exact .inr ⟨.product, r, rfl, Sources.isSome_productRow row⟩
  · exact .inr ⟨.invoice, r, rfl, Sources.isSome_invoiceRow row⟩

theorem Sound.ingestAll (sound : Sound sha256 db) (tenantId : Uuid) (m : Meanwhile) :
    Sound sha256 (ingestAll sha256 db tenantId m).1 where
  hash c mem := by
    rcases mem_ingestAll mem with old | ⟨ty, r, rfl, -⟩
    · exact sound.hash c old
    · rfl
  source c mem := by
    rcases mem_ingestAll mem with old | ⟨ty, r, rfl, here⟩
    · exact m.keeps_seen db.sources .audit _ _ _ (sound.source c old)
    · exact m.seen_keeps db.sources ty _ _ _ here

/-! ## The mirror -/

def bodies (db : Db) (tenantId : Uuid) (ty : SourceType) (id : Uuid) : List String :=
  (stored db.chunks (tenantId, ty, id)).map (·.body)

/-- One chunk for each source, with the redaction of what it says now. -/
def Mirrors (db : Db) (tenantId : Uuid) : Prop :=
  ∀ ty id, bodies db tenantId ty id = ((db.sources.row? tenantId ty id).map fun r => redactPii r.body).toList

/-- A source that has a chunk still says what is in it, up to redaction, and one that has none is there when its
table is read, with what it says when the call ends. -/
def Settled (sha256 : String → String) (db : Db) (tenantId : Uuid) (m : Meanwhile) : Prop :=
  ∀ ty id, match (m.afterInvoices db.sources).row? tenantId ty id with
    | none => bodies db tenantId ty id = []
    | some r => ∃ seen, (m.seen db.sources ty).row? tenantId ty id = some seen ∧
        (bodies db tenantId ty id = [] ∧ redactPii seen.body = redactPii r.body ∨
          bodies db tenantId ty id = [redactPii r.body] ∧
            contentHash sha256 ty id (redactPii seen.body) = contentHash sha256 ty id (redactPii r.body))

theorem known_iff (sound : Sound sha256 db) {r : Row} (here : r.id = id) :
    Known (stored db.chunks (tenantId, ty, id)) (chunkOf sha256 tenantId ty r) ↔
      ∃ body ∈ bodies db tenantId ty id,
        contentHash sha256 ty id body = contentHash sha256 ty id (redactPii r.body) := by
  subst here
  simp only [bodies, Known, List.mem_map, exists_exists_and_eq_and]
  refine exists_congr fun c => and_congr_right fun mem => ?_
  obtain ⟨inside, source⟩ := List.mem_filter.mp mem
  have source : c.source = (tenantId, ty, r.id) := of_decide_eq_true source
  have hash := sound.hash c inside
  obtain ⟨-, sameType, sameId⟩ : c.tenantId = tenantId ∧ c.sourceType = ty ∧ c.sourceId = r.id := by
    simpa [RagChunk.source] using source
  rw [sameType, sameId] at hash
  rw [source, hash]
  exact and_iff_right rfl

theorem bodies_eq_nil (sound : Sound sha256 db) (unseen : db.sources.row? tenantId ty id = none) :
    bodies db tenantId ty id = [] := by
  rw [bodies, List.map_eq_nil_iff, stored, List.filter_eq_nil_iff]
  intro c mem source
  have source : c.source = (tenantId, ty, id) := of_decide_eq_true source
  obtain ⟨sameTenant, sameType, sameId⟩ : c.tenantId = tenantId ∧ c.sourceType = ty ∧ c.sourceId = id := by
    simpa [RagChunk.source] using source
  have there := sound.source c mem
  rw [sameTenant, sameType, sameId, unseen] at there
  cases there

theorem mirrors_iff_settled (sound : Sound sha256 db)
    (few : ((m.afterProducts db.sources).tenantInvoices tenantId).length ≤ 1000) :
    Mirrors (ingestAll sha256 db tenantId m).1 tenantId ↔ Settled sha256 db tenantId m := by
  refine forall_congr' fun ty => forall_congr' fun id => ?_
  have chunks := stored_ingestAll sha256 few tenantId ty id
  rw [if_pos rfl] at chunks
  rw [bodies, chunks, sources_ingestAll]
  cases seen : (m.seen db.sources ty).row? tenantId ty id with
  | none =>
      have unseen : db.sources.row? tenantId ty id = none := by
        by_contra there
        have here := m.keeps_seen db.sources ty tenantId ty id (Option.isSome_iff_ne_none.mpr there)
        rw [seen] at here
        cases here
      have none := bodies_eq_nil sound unseen
      rw [Option.elim_none, ← bodies, none]
      cases final : (m.afterInvoices db.sources).row? tenantId ty id with
      | none => simp
      | some r => simp
  | some w =>
      have there := m.seen_keeps db.sources ty tenantId ty id (by rw [seen]; rfl)
      obtain ⟨r, final⟩ := Option.isSome_iff_exists.mp there
      have known : Known (stored db.chunks (tenantId, ty, id)) (chunkOf _ tenantId ty w) ↔ _ :=
        known_iff sound (Sources.id_of_row? seen)
      rw [Option.elim_some, refreshed, final]
      simp only [Option.map_some, Option.toList_some, Option.some_inj, exists_eq_left']
      split_ifs with here
      · rw [known] at here
        obtain ⟨body, mem, hash⟩ := here
        rw [← bodies]
        constructor
        · intro mirrored
          rw [mirrored, List.mem_singleton] at mem
          exact .inr ⟨mirrored, by rw [← hash, mem]⟩
        · rintro (⟨none, -⟩ | ⟨one, -⟩)
          · rw [none] at mem
            cases mem
          · exact one
      · rw [known] at here
        have fresh : (stored db.chunks (tenantId, ty, id) ++ [chunkOf sha256 tenantId ty w]).map (·.body) =
            bodies db tenantId ty id ++ [redactPii w.body] := List.map_append
        rw [fresh]
        constructor
        · intro mirrored
          obtain ⟨none, same⟩ : bodies db tenantId ty id = [] ∧ [redactPii w.body] = [redactPii r.body] :=
            List.append_inj' mirrored rfl
          exact .inl ⟨none, List.singleton_inj.mp same⟩
        · rintro (⟨none, same⟩ | ⟨one, hash⟩)
          · rw [none, same]
            rfl
          · exact absurd ⟨redactPii r.body, by simp [one], hash.symm⟩ here

theorem inserted_ingestAll_again (sha256 : String → String) (db : Db) (tenantId : Uuid) :
    (ingestAll sha256 (ingestAll sha256 db tenantId {}).1 tenantId {}).2.inserted = 0 := by
  let sources := db.sources
  let start : Ingest := ⟨(ingestAll sha256 db tenantId {}).1.chunks, 0, 0⟩
  let first := ingest sha256 tenantId .customer start (sources.customerRows tenantId)
  let second := ingest sha256 tenantId .product first (sources.productRows tenantId)
  let third := ingest sha256 tenantId .invoice second (sources.invoiceRows tenantId)
  have customers : ∀ r ∈ sources.customerRows tenantId, Known start.chunks (chunkOf sha256 tenantId .customer r) :=
    fun r mem => known_ingest_mono (known_ingest_mono (known_ingest r mem))
  have products : ∀ r ∈ sources.productRows tenantId, Known start.chunks (chunkOf sha256 tenantId .product r) :=
    fun r mem => known_ingest_mono (known_ingest r mem)
  have invoices : ∀ r ∈ sources.invoiceRows tenantId, Known start.chunks (chunkOf sha256 tenantId .invoice r) :=
    known_ingest
  have products' : ∀ r ∈ sources.productRows tenantId, Known first.chunks (chunkOf sha256 tenantId .product r) :=
    fun r mem => known_ingest_mono (products r mem)
  have invoices' : ∀ r ∈ sources.invoiceRows tenantId, Known second.chunks (chunkOf sha256 tenantId .invoice r) :=
    fun r mem => known_ingest_mono (known_ingest_mono (invoices r mem))
  calc
    third.inserted = second.inserted := (ingest_of_known invoices').2
    _ = first.inserted := (ingest_of_known products').2
    _ = 0 := (ingest_of_known customers).2

end

/-! ## Histories -/

inductive Event where
  | change (c : Change)
  | ingestAll (tenantId : Uuid) (meanwhile : Meanwhile)

section
variable (sha256 : String → String)

def next (db : Db) : Event → Db
  | .change c => { db with sources := db.sources.change c }
  | .ingestAll tenantId meanwhile => (ingestAll sha256 db tenantId meanwhile).1

def Few (db : Db) (tenantId : Uuid) (m : Meanwhile) : Prop :=
  ((m.afterProducts db.sources).tenantInvoices tenantId).length ≤ 1000

/-- A call leaves the mirror of the tenant's sources. -/
def Mirrored (db : Db) : Event → Prop
  | .change _ => True
  | .ingestAll tenantId m => Few db tenantId m → Mirrors (ingestAll sha256 db tenantId m).1 tenantId

def Unedited (db : Db) : Event → Prop
  | .change _ => True
  | .ingestAll tenantId m => Few db tenantId m → Settled sha256 db tenantId m

variable {sha256} {db : Db}

theorem Sound.next (sound : Sound sha256 db) (e : Event) : Sound sha256 (next sha256 db e) := by
  cases e with
  | change c => exact ⟨sound.hash, fun r mem => Sources.keeps_change db.sources c _ _ _ (sound.source r mem)⟩
  | ingestAll tenantId m => exact sound.ingestAll tenantId m

theorem mirrored_iff (sound : Sound sha256 db) (e : Event) : Mirrored sha256 db e ↔ Unedited sha256 db e := by
  cases e with
  | change c => exact Iff.rfl
  | ingestAll tenantId m => exact forall_congr' fun few => mirrors_iff_settled sound few

end

/-- Over histories from an empty store: the calls leave mirrors exactly when no ingested source was edited. -/
theorem ingests_mirror_iff (sha256 : String → String) (sources : Sources) (events : List Event) :
    (AllMet (Mirrored sha256) (next sha256) ⟨sources, []⟩ events ↔
      AllMet (Unedited sha256) (next sha256) ⟨sources, []⟩ events) ∧
    ∀ db tenantId, (ingestAll sha256 (ingestAll sha256 db tenantId {}).1 tenantId {}).2.inserted = 0 := by
  have empty : Sound sha256 ⟨sources, []⟩ := ⟨by simp, by simp⟩
  refine ⟨?_, inserted_ingestAll_again sha256⟩
  exact AllMet.congr (Sound sha256) empty (fun _ e sound => sound.next e) fun _ e sound => mirrored_iff sound e

namespace Rename

def before : Customer := ⟨1, 7, "Acme Spa", some "Via Roma 1", some "Milano", none⟩

def after : Customer := { before with name := "Beta Srl" }

def history : List Event :=
  [.change (.customer before), .ingestAll 7 {}, .change (.customer after), .ingestAll 7 {}]

end Rename

open Rename in
/-- The chunk with the old name stays beside the new one. -/
theorem renamed_customer_twice : ¬ AllMet (Mirrored id) (next id) ⟨⟨∅, ∅, ∅⟩, []⟩ history := by
  intro met
  have few : Few ([.change (.customer before), .ingestAll 7 {}, .change (.customer after)].foldl (next id)
      ⟨⟨∅, ∅, ∅⟩, []⟩) 7 {} := Nat.zero_le 1000
  have mirror := met.2.2.2.1 few .customer 1
  exact absurd mirror (by decide +kernel)

/-! ## What is stored -/

/-- The patterns leave nothing that one of them matches, whatever their order, and no body has any of it. -/
theorem redaction_leaves_nothing (sha256 : String → String) :
    (∀ rules s, rules.Perm PATTERNS → ∀ rule ∈ PATTERNS, ¬ Stands rule.regex (rewrite rules s)) ∧
    (∀ s, ∀ rule ∈ PATTERNS, ¬ Stands rule.regex (redactPii s).toList) ∧
    (∀ s, redactPii (redactPii s) = redactPii s) ∧
    ∀ (sources : Sources) (events : List Event), ∀ c ∈ (events.foldl (next sha256) ⟨sources, []⟩).chunks,
      ∀ rule ∈ PATTERNS, ¬ Stands rule.regex c.body.toList := by
  refine ⟨fun rules s perm rule mem => ?_, redactPii_clean, redactPii_redactPii, fun sources events => ?_⟩
  · apply rewrite_clean (fun rule mem => apt_patterns rule (perm.mem_iff.mp mem)) s
    exact perm.mem_iff.mpr mem
  · have general : ∀ db : Db, (∀ c ∈ db.chunks, ∀ rule ∈ PATTERNS, ¬ Stands rule.regex c.body.toList) →
        ∀ c ∈ (events.foldl (next sha256) db).chunks, ∀ rule ∈ PATTERNS, ¬ Stands rule.regex c.body.toList := by
      induction events with
      | nil => exact fun _ clean => clean
      | cons e events ih =>
          intro db clean
          apply ih
          intro c mem
          cases e with
          | change => exact clean c mem
          | ingestAll tenantId m =>
              rcases mem_ingestAll mem with old | ⟨ty, r, rfl, -⟩
              · exact clean c old
              · exact redactPii_clean r.body
    exact general _ (by simp)

end SmartErp.AiCopilot
