import InbandNull.ColumnType.Basic
import InbandNull.Proofs.Buffer.Decode
import InbandNull.Proofs.Buffer.Fill
import InbandNull.Proofs.Bytes.Overwrite

/-!
# Columns in chunks

Two buffers of whole rows, one after the other, make a column. The main statement is that whatever
is read from this column, or written over it, is what is read from the two parts or written over
them, one after the other. Nothing depends on the place of a row or on its neighbours. Each of the
three buffers lies where it likes, and so is compared in place or bytewise on its own.
-/

namespace InbandNull

namespace Buffer

variable {b p q : Buffer} {d : Descriptor} {layout : ValueLayout}

theorem rows_of_append {w : Nat} (hpos : 1 ≤ w) (hb : b.bytes = p.bytes ++ q.bytes)
    (hp : p.bytes.length % w = 0) : b.rows w = p.rows w ++ q.rows w := by
  rw [rows, hb, rows_append_of_whole hpos hp]
  rfl

theorem whole_of_append {w : Nat} (hb : b.bytes = p.bytes ++ q.bytes)
    (hp : p.bytes.length % w = 0) (hq : q.bytes.length % w = 0) : b.bytes.length % w = 0 := by
  rw [hb, List.length_append, Nat.add_mod, hp, hq]
  exact Nat.zero_mod _

theorem nullMask_of_append (hpos : 1 ≤ layout.width) (hb : b.bytes = p.bytes ++ q.bytes)
    (hp : p.bytes.length % layout.width = 0) :
    b.nullMask layout = p.nullMask layout ++ q.nullMask layout := by
  rw [nullMask, rows_of_append hpos hb hp, List.map_append]
  rfl

/-- The validity of a column may be there although that of one part is not; the flags that they
stand for are those of the masks. -/
theorem decoded_of_append {α : Type} (read : List UInt8 → α) (hpos : 1 ≤ layout.width)
    (hb : b.bytes = p.bytes ++ q.bytes) (hp : p.bytes.length % layout.width = 0) :
    (b.decoded layout read).values =
        (p.decoded layout read).values ++ (q.decoded layout read).values ∧
      (b.decoded layout read).nulls =
        (p.decoded layout read).nulls ++ (q.decoded layout read).nulls := by
  constructor
  · rw [decoded, rows_of_append hpos hb hp, List.map_append]
    rfl
  · rw [nulls_decoded, nulls_decoded, nulls_decoded, nullMask_of_append hpos hb hp]

theorem overwrite_of_append {w : Nat} (new : List UInt8) (hb : b.bytes = p.bytes ++ q.bytes)
    (hp : p.bytes.length % w = 0) {m : Mask} (hm : m.length = p.bytes.length / w) (n : Mask) :
    overwrite w new (m ++ n) b.bytes = overwrite w new m p.bytes ++ overwrite w new n q.bytes := by
  have hcover : p.bytes.length = m.length * w := by
    rw [hm, Nat.div_mul_cancel (Nat.dvd_of_mod_eq_zero hp)]
  rw [hb, overwrite_append hcover]

theorem length_append_masks {w : Nat} (hpos : 1 ≤ w) (hb : b.bytes = p.bytes ++ q.bytes)
    (hp : p.bytes.length % w = 0) {m n : Mask} (hm : m.length = p.bytes.length / w)
    (hn : n.length = q.bytes.length / w) : (m ++ n).length = b.bytes.length / w := by
  have hrows := congrArg List.length (rows_of_append hpos hb hp)
  rw [List.length_append, length_rows, length_rows, length_rows] at hrows
  rw [List.length_append, hm, hn, hrows]

/-- Scan, count, decoder and overwriting treat a column as they treat its two parts, each of whole
rows: flags, values and bytes follow one another, and counts add up. -/
theorem acts_by_parts (h : d.valueLayout = .ok layout) (hb : b.bytes = p.bytes ++ q.bytes)
    (hp : p.bytes.length % layout.width = 0) (hq : q.bytes.length % layout.width = 0) :
    (∃ m n, (p.scan d).result = .ok m ∧ (q.scan d).result = .ok n ∧
      (b.scan d).result = .ok (m ++ n)) ∧
    (∃ k l, (p.nullCount d).result = .ok k ∧ (q.nullCount d).result = .ok l ∧
      (b.nullCount d).result = .ok (k + l)) ∧
    (∀ stored, layout = .integer stored → ∃ x y a, (p.decodeIntegers d).result = .ok x ∧
      (q.decodeIntegers d).result = .ok y ∧ (b.decodeIntegers d).result = .ok a ∧
      a.values = x.values ++ y.values ∧ a.nulls = x.nulls ++ y.nulls) ∧
    (∀ kind, layout = .float kind → ∃ x y a, (p.decodeFloats d).result = .ok x ∧
      (q.decodeFloats d).result = .ok y ∧ (b.decodeFloats d).result = .ok a ∧
      a.values = x.values ++ y.values ∧ a.nulls = x.nulls ++ y.nulls) ∧
    ∀ m n : Mask, m.length = p.bytes.length / layout.width →
      n.length = q.bytes.length / layout.width →
      ∃ bs cs, p.setNulls d m = ⟨pure (), { p with bytes := bs }⟩ ∧
        q.setNulls d n = ⟨pure (), { q with bytes := cs }⟩ ∧
        b.setNulls d (m ++ n) = ⟨pure (), { b with bytes := bs ++ cs }⟩ := by
  have hpos := ValueLayout.one_le_width (ValueLayout.wellFormed_of_valueLayout h)
  have hwhole := whole_of_append hb hp hq
  have hmask := nullMask_of_append hpos hb hp
  refine ⟨⟨p.nullMask layout, q.nullMask layout, ?_, ?_, ?_⟩,
    ⟨(p.nullMask layout).nullCount, (q.nullMask layout).nullCount, ?_, ?_, ?_⟩, ?_, ?_, ?_⟩
  · rw [scan_eq h hp]
  · rw [scan_eq h hq]
  · rw [scan_eq h hwhole, hmask]
  · rw [nullCount_eq h hp]
  · rw [nullCount_eq h hq]
  · rw [nullCount_eq h hwhole, hmask, Mask.nullCount_append]
  · rintro stored rfl
    refine ⟨_, _, _, ?_, ?_, ?_, decoded_of_append stored.decode hpos hb hp⟩
    · rw [decodeIntegers_eq h hp]
    · rw [decodeIntegers_eq h hq]
    · rw [decodeIntegers_eq h hwhole]
  · rintro kind rfl
    refine ⟨_, _, _, ?_, ?_, ?_, decoded_of_append kind.decode hpos hb hp⟩
    · rw [decodeFloats_eq h hp]
    · rw [decodeFloats_eq h hq]
    · rw [decodeFloats_eq h hwhole]
  · intro m n hm hn
    refine ⟨_, _, setNulls_eq h hp hm, setNulls_eq h hq hn, ?_⟩
    rw [setNulls_eq h hwhole (length_append_masks hpos hb hp hm hn),
      overwrite_of_append _ hb hp hm]

/-- Two dictionary ids without a NULL, hence without a validity, before a NULL that has one. The
parts are aligned and the whole is not. -/
theorem acts_by_parts_dictText :
    (ColumnType.dictText 2).toDescriptor.valueLayout = .ok (.integer ⟨2, false, 65535⟩) ∧
      ([0x00, 0x00, 0x07, 0x00] : List UInt8).length % 2 = 0 ∧
      ([0xFF, 0xFF] : List UInt8).length % 2 = 0 ∧
      (∃ a, (decodeIntegers ⟨[0x00, 0x00, 0x07, 0x00, 0xFF, 0xFF], 1, .little⟩
          (ColumnType.dictText 2).toDescriptor).result = .ok a ∧
        a.values = [0, 7] ++ [65535] ∧ a.nulls = [false, false] ++ [true]) ∧
      setNulls ⟨[0x00, 0x00, 0x07, 0x00, 0xFF, 0xFF], 1, .little⟩
          (ColumnType.dictText 2).toDescriptor ([true, false] ++ [false]) =
        ⟨pure (), ⟨[0xFF, 0xFF, 0x07, 0x00] ++ [0xFF, 0xFF], 1, .little⟩⟩ := by
  have h : (ColumnType.dictText 2).toDescriptor.valueLayout = .ok (.integer ⟨2, false, 65535⟩) :=
    rfl
  obtain ⟨-, -, hintegers, -, hset⟩ := acts_by_parts
    (b := ⟨[0x00, 0x00, 0x07, 0x00, 0xFF, 0xFF], 1, .little⟩)
    (p := ⟨[0x00, 0x00, 0x07, 0x00], 0, .little⟩) (q := ⟨[0xFF, 0xFF], 0, .little⟩) h rfl rfl rfl
  refine ⟨h, rfl, rfl, ?_, ?_⟩
  · obtain ⟨x, y, a, hx, hy, ha, hvalues, hnulls⟩ := hintegers _ rfl
    have hfirst : x = ⟨[0, 7], none⟩ := (Except.ok.inj hx).symm
    have hsecond : y = ⟨[65535], some ⟨[false]⟩⟩ := (Except.ok.inj hy).symm
    rw [hfirst, hsecond] at hvalues hnulls
    exact ⟨a, ha, hvalues, hnulls⟩
  · obtain ⟨bs, cs, hbs, hcs, hboth⟩ := hset [true, false] [false] rfl rfl
    have hfirst : bs = [0xFF, 0xFF, 0x07, 0x00] :=
      (congrArg (fun written => written.buffer.bytes) hbs).symm
    have hsecond : cs = [0xFF, 0xFF] :=
      (congrArg (fun written => written.buffer.bytes) hcs).symm
    rw [hfirst, hsecond] at hboth
    exact hboth

end Buffer

end InbandNull
