import WebCapture.Proofs.Text.Blank
import WebCapture.Proofs.Text.Digits
import WebCapture.Url.Address

set_option autoImplicit false

/-! # Numeric addresses are read back

Whatever spelling a numeric host address was given in, the one form in which it is written is read
as that address: `Ipv4.read?_text` and `Ipv6.read?_text`.

Four octets are written in decimal with dots between them, which is the plainest of the spellings.
Eight pieces are written in hexadecimal, and the longest run of two zeros or more is left out for
two colons; the reader finds the gap, counts the pieces that are there, and fills in as many zeros
as are missing.
-/

namespace WebCapture.Url

open Text (decimal digitValue? hex number?)

/-! ## Addresses of four octets

A decimal number without leading zeros is read in base ten, and four parts that are below 256 make
up the address.
-/

def Ipv4.parts (ip : Ipv4) : List (List Char) :=
  [decimal ip.a.val, decimal ip.b.val, decimal ip.c.val, decimal ip.d.val]

theorem decimal_no_dot (n : Nat) : '.' ∉ decimal n := fun dot =>
  have others : ∀ c ∈ decimal n, c ≠ '.' := Text.forall_mem_decimal (by decide) n
  others '.' dot rfl

theorem Ipv4.splitOn_text (ip : Ipv4) : ip.text.splitOn '.' = ip.parts := by
  refine List.splitOn_intercalate '.' (fun part h => ?_) (List.cons_ne_nil _ _)
  simp only [List.mem_cons, List.not_mem_nil, or_false] at h
  rcases h with rfl | rfl | rfl | rfl <;> exact decimal_no_dot _

theorem Ipv4.dottedParts_text (ip : Ipv4) : dottedParts ip.text = ip.parts := by
  have last : ip.parts.getLast? ≠ some [] := by
    intro none
    exact Text.decimal_ne_nil ip.d.val (Option.some.inj none)
  simp only [dottedParts, ip.splitOn_text, if_neg last]

theorem addressPart?_decimal (n : Fin 256) : addressPart? (decimal n.val) = some n.val := by
  have all : ∀ n : Fin 256, addressPart? (decimal n.val) = some n.val := by decide +kernel
  exact all n

theorem Ipv4.endsInNumber_text (ip : Ipv4) : endsInNumber ip.text = true := by
  have last : ip.parts.getLast? = some (decimal ip.d.val) := rfl
  simp only [endsInNumber, ip.dottedParts_text, last, addressPart?_decimal, Option.isSome_some,
    Bool.or_true]

theorem Ipv4.ofNat_octets (ip : Ipv4) :
    Ipv4.ofNat (ip.a.val * 16777216 + ip.b.val * 65536 + ip.c.val * 256 + ip.d.val) = ip := by
  obtain ⟨⟨a, ha⟩, ⟨b, hb⟩, ⟨c, hc⟩, ⟨d, hd⟩⟩ := ip
  simp only [Ipv4.ofNat, Ipv4.mk.injEq, Fin.ext_iff, Fin.val_ofNat]
  omega

/-- **An address of four octets is read back from its text.** -/
theorem Ipv4.read?_text (ip : Ipv4) : Ipv4.read? ip.text = some ip := by
  have parts : ip.parts.mapM addressPart? = some [ip.a.val, ip.b.val, ip.c.val, ip.d.val] := by
    rw [Ipv4.parts, List.mapM_cons, List.mapM_cons, List.mapM_cons, List.mapM_cons,
      List.mapM_nil, addressPart?_decimal, addressPart?_decimal, addressPart?_decimal,
      addressPart?_decimal]
    rfl
  simp only [Ipv4.read?, ip.dottedParts_text, parts, Ipv4.ofParts?, Ipv4.ofNat_octets]
  exact if_pos ⟨ip.a.isLt, ip.b.isLt, ip.c.isLt, ip.d.isLt⟩

/-- The characters of an address of four octets. -/
theorem Ipv4.forall_mem_text {P : Char → Prop} (digit : ∀ v : Fin 16, P v.val.digitChar)
    (dot : P '.') (ip : Ipv4) : ∀ c ∈ ip.text, P c := by
  intro c h
  rcases Text.mem_intercalate h with h | ⟨part, here, h⟩
  · rw [List.mem_singleton.mp h]
    exact dot
  · simp only [List.mem_cons, List.not_mem_nil, or_false] at here
    rcases here with rfl | rfl | rfl | rfl <;> exact Text.forall_mem_decimal digit _ c h

/-! ## Addresses of eight pieces

The text has a gap or has none. Without a gap the pieces are read one after the other. With one,
the pieces before it and those behind it are read in the same way, and what was left out is known
to be zeros since `longestZeros` has found a run of them.
-/

/-! ### Runs of zeros -/

theorem leadingZeros_spec (pieces : List Nat) :
    pieces = List.replicate (leadingZeros pieces) 0 ++ pieces.drop (leadingZeros pieces) := by
  induction pieces with
  | nil => rfl
  | cons p rest ih =>
      by_cases zero : p = 0
      · subst zero
        have count : leadingZeros (0 :: rest) = leadingZeros rest + 1 := rfl
        rw [count, List.replicate_succ, List.drop_succ_cons, List.cons_append, ← ih]
      · have count : leadingZeros (p :: rest) = 0 := by simp [leadingZeros, zero]
        rw [count]
        rfl

/-- The longest run of zeros that is found lies in the list. -/
theorem longestZeros_spec (index : Nat) (pieces : List Nat) :
    ∃ offset, (longestZeros index pieces).1 = index + offset ∧
      pieces = pieces.take offset ++ List.replicate (longestZeros index pieces).2 0
        ++ pieces.drop (offset + (longestZeros index pieces).2) := by
  induction pieces generalizing index with
  | nil => exact ⟨0, rfl, rfl⟩
  | cons p rest ih =>
      rw [longestZeros]
      dsimp only
      split
      · -- The run starts here.
        refine ⟨0, rfl, ?_⟩
        rw [List.take_zero, List.nil_append, Nat.zero_add]
        exact leadingZeros_spec (p :: rest)
      · -- The run starts later.
        obtain ⟨offset, start, parts⟩ := ih (index + 1)
        refine ⟨offset + 1, by dsimp only; omega, ?_⟩
        rw [List.take_succ_cons, Nat.add_right_comm, List.drop_succ_cons, List.cons_append,
          List.cons_append]
        exact congrArg (p :: ·) parts

/-! ### Pieces one after the other -/

theorem hex_length {n : Nat} (h : n < 65536) : (hex n).length ≤ 4 :=
  (Nat.length_toDigits_le_iff (by decide) (by decide)).mpr h

/-- A piece is taken off up to the first character that is no digit. -/
theorem splitPiece_hex {n : Nat} (h : n < 65536) {rest : List Char}
    (stop : ∀ c ∈ rest.head?, (digitValue? 16 c).isSome = false) :
    splitPiece (hex n ++ rest) = (hex n, rest) := by
  have digits : ∀ c ∈ hex n, (digitValue? 16 c).isSome = true := Text.forall_mem_hex (by decide) n
  have taken : ((hex n ++ rest).take 4).takeWhile (digitValue? 16 · |>.isSome) = hex n := by
    rw [List.take_append, List.take_of_length_le (hex_length h)]
    refine Text.takeWhile_append_stop digits fun c hc => ?_
    rw [List.head?_take] at hc
    split at hc
    · cases hc
    · exact stop c hc
  rw [splitPiece, taken, List.drop_left]

theorem hex_ne_colon (n : Nat) : ∀ c ∈ hex n, c ≠ ':' := Text.forall_mem_hex (by decide) n

/-- The last piece. -/
theorem readPieces?_last {n : Nat} (h : n < 65536) {done : List Nat} (gap : Option Nat)
    (room : done.length < 8) : readPieces? (hex n) done gap = some (done ++ [n], gap) := by
  -- Nothing follows the digits.
  have split : splitPiece (hex n ++ []) = (hex n, []) := splitPiece_hex h (fun c none => nomatch none)
  have number : number? 16 (hex n) = some n := Text.number?_hex n
  have notColon := hex_ne_colon n
  rw [List.append_nil] at split
  cases written : hex n with
  | nil => exact absurd written (Text.hex_ne_nil n)
  | cons c more =>
      rw [written] at split notColon number
      rw [readPieces?, if_neg (List.cons_ne_nil _ _), if_neg (by omega), split]
      · dsimp only
        rw [number]
        rfl
      · exact notColon c List.mem_cons_self

/-- A piece with a colon behind it. -/
theorem readPieces?_more {n : Nat} (h : n < 65536) {done : List Nat} (gap : Option Nat)
    (room : done.length < 8) {rest : List Char} (filled : rest ≠ []) :
    readPieces? (hex n ++ ':' :: rest) done gap = readPieces? rest (done ++ [n]) gap := by
  have split : splitPiece (hex n ++ ':' :: rest) = (hex n, ':' :: rest) := by
    refine splitPiece_hex h fun c here => ?_
    cases here
    decide
  have number : number? 16 (hex n) = some n := Text.number?_hex n
  have notColon := hex_ne_colon n
  -- The reader checks that it gets on.
  have shorter : rest.length < (hex n ++ ':' :: rest).length := by
    rw [List.length_append, List.length_cons]
    omega
  have proper : ¬(hex n = [] ∨ rest = []) := not_or.mpr ⟨Text.hex_ne_nil n, filled⟩
  cases written : hex n with
  | nil => exact absurd written (Text.hex_ne_nil n)
  | cons c more =>
      rw [written] at split notColon number shorter proper
      rw [List.cons_append] at split shorter ⊢
      rw [readPieces?, if_neg (List.cons_ne_nil _ _), if_neg (by omega), split]
      · simp only [if_neg proper, dif_pos shorter, number]
      · exact notColon c List.mem_cons_self

/-- A colon where a piece would start is the second one of a gap. -/
theorem readPieces?_gap {done : List Nat} (room : done.length < 8) (rest : List Char) :
    readPieces? (':' :: rest) done none
      = readPieces? rest (done ++ [0]) (some (done.length + 1)) := by
  rw [readPieces?, if_neg (List.cons_ne_nil _ _), if_neg (by omega)]
  rfl

theorem colonText_cons_cons (n m : Nat) (more : List Nat) :
    colonText (n :: m :: more) = hex n ++ ':' :: colonText (m :: more) := by
  simp [colonText, List.intercalate_cons_cons]

theorem colonText_singleton (n : Nat) : colonText [n] = hex n :=
  List.intercalate_singleton

/-- The text of pieces starts with a digit. -/
theorem colonText_cons (n : Nat) (more : List Nat) :
    ∃ c rest, colonText (n :: more) = c :: rest ∧ c ≠ ':' := by
  have notColon := hex_ne_colon n
  cases written : hex n with
  | nil => exact absurd written (Text.hex_ne_nil n)
  | cons c digits =>
      have first : c ≠ ':' := notColon c (written ▸ List.mem_cons_self)
      cases more with
      | nil => exact ⟨c, digits, (colonText_singleton n).trans written, first⟩
      | cons m more =>
          refine ⟨c, digits ++ ':' :: colonText (m :: more), ?_, first⟩
          rw [colonText_cons_cons, written]
          rfl

/-- Pieces with colons between them are read one after the other. -/
theorem readPieces?_colonText {pieces : List Nat} (small : ∀ n ∈ pieces, n < 65536)
    {done : List Nat} (gap : Option Nat) (room : done.length + pieces.length ≤ 8) :
    readPieces? (colonText pieces) done gap = some (done ++ pieces, gap) := by
  induction pieces generalizing done with
  | nil =>
      rw [List.append_nil, colonText, List.map_nil, List.intercalate_nil, readPieces?]
      rfl
  | cons n more ih =>
      obtain ⟨first, others⟩ := List.forall_mem_cons.mp small
      rw [List.length_cons] at room
      cases more with
      | nil =>
          rw [colonText_singleton]
          exact readPieces?_last first gap (by omega)
      | cons m more =>
          obtain ⟨c, rest, text, -⟩ := colonText_cons m more
          have filled : colonText (m :: more) ≠ [] := by
            rw [text]
            exact List.cons_ne_nil _ _
          have longer : (done ++ [n]).length + (m :: more).length ≤ 8 := by
            rw [List.length_append, List.length_singleton]
            omega
          rw [colonText_cons_cons, readPieces?_more first gap (by omega) filled, ih others longer,
            List.append_assoc]
          rfl

/-- Pieces before a gap. -/
theorem readPieces?_before_gap {pieces : List Nat} (filled : pieces ≠ [])
    (small : ∀ n ∈ pieces, n < 65536) {done : List Nat} (room : done.length + pieces.length < 8)
    (rest : List Char) :
    readPieces? (colonText pieces ++ ':' :: ':' :: rest) done none
      = readPieces? rest (done ++ pieces ++ [0]) (some (done.length + pieces.length + 1)) := by
  induction pieces generalizing done with
  | nil => exact absurd rfl filled
  | cons n more ih =>
      obtain ⟨first, others⟩ := List.forall_mem_cons.mp small
      rw [List.length_cons] at room
      cases more with
      | nil =>
          have longer : (done ++ [n]).length < 8 := by
            rw [List.length_append, List.length_singleton]
            omega
          rw [colonText_singleton, readPieces?_more first none (by omega) (List.cons_ne_nil _ _),
            readPieces?_gap longer, List.length_append]
      | cons m more =>
          have longer : (done ++ [n]).length + (m :: more).length < 8 := by
            rw [List.length_append, List.length_singleton]
            omega
          have rest_ne : colonText (m :: more) ++ ':' :: ':' :: rest ≠ [] := by simp
          rw [colonText_cons_cons, List.append_assoc, List.cons_append,
            readPieces?_more first none (by omega) rest_ne,
            ih (List.cons_ne_nil _ _) others longer]
          have sum : (done ++ [n]).length + (m :: more).length
              = done.length + (n :: m :: more).length := by
            simp only [List.length_append, List.length_cons, List.length_nil]
            omega
          rw [sum, List.append_assoc done [n] (m :: more), List.singleton_append]

/-! ### Whole addresses -/

theorem Ipv6.ofPieces?_eq {ip : Ipv6} {pieces : List Nat} {gap : Option Nat}
    (h : fillGap? pieces gap = some (ip.pieces.map (·.val))) :
    Ipv6.ofPieces? (some (pieces, gap)) = some ip := by
  obtain ⟨eight, length⟩ := ip
  have same : (eight.map (·.val)).map (Fin.ofNat 65536) = eight := by
    rw [List.map_map]
    refine (List.map_congr_left fun p _ => ?_).trans (List.map_id eight)
    exact Fin.ext (Nat.mod_eq_of_lt p.isLt)
  simp only [Ipv6.ofPieces?, h, same, length, dif_pos]

theorem Ipv6.read?_colons (rest : List Char) :
    Ipv6.read? (':' :: ':' :: rest) = Ipv6.ofPieces? (readPieces? rest [0] (some 1)) := rfl

/-- A text that does not start with a colon is read from its first piece on. -/
theorem Ipv6.read?_cons {c : Char} {more : List Char} (first : c ≠ ':') (longer : more ≠ []) :
    Ipv6.read? (c :: more) = Ipv6.ofPieces? (readPieces? (c :: more) [] none) := by
  unfold Ipv6.read?
  split
  · rename_i same
    exact absurd (List.cons.inj same).1 first
  · rename_i same
    exact absurd (List.cons.inj same).1 first
  · rename_i same
    cases same
  · rename_i same
    exact absurd (List.cons.inj same).2 longer
  · rfl

/-- **An address of eight pieces is read back from its text.** -/
theorem Ipv6.read?_text (ip : Ipv6) : Ipv6.read? ip.text = some ip := by
  have small : ∀ n ∈ ip.pieces.map (·.val), n < 65536 := by
    intro n h
    obtain ⟨p, -, rfl⟩ := List.mem_map.mp h
    exact p.isLt
  have count : (ip.pieces.map (·.val)).length = 8 := by rw [List.length_map, ip.length_eq]
  obtain ⟨start, place, parts⟩ := longestZeros_spec 0 (ip.pieces.map (·.val))
  rw [Nat.zero_add] at place
  unfold Ipv6.text
  dsimp only
  rw [place]
  generalize (longestZeros 0 (ip.pieces.map (·.val))).2 = run at parts ⊢
  split
  · rename_i long
    -- The pieces before and behind the run of zeros.
    have smallFront : ∀ n ∈ (ip.pieces.map (·.val)).take start, n < 65536 :=
      fun n h => small n (List.mem_of_mem_take h)
    have smallBack : ∀ n ∈ (ip.pieces.map (·.val)).drop (start + run), n < 65536 :=
      fun n h => small n (List.mem_of_mem_drop h)
    generalize (ip.pieces.map (·.val)).take start = front at parts smallFront ⊢
    generalize (ip.pieces.map (·.val)).drop (start + run) = back at parts smallBack ⊢
    have sum : front.length + run + back.length = 8 := by
      rw [← count, parts, List.length_append, List.length_append, List.length_replicate]
    have read : readPieces? (colonText back) (front ++ [0]) (some (front.length + 1))
        = some (front ++ [0] ++ back, some (front.length + 1)) :=
      readPieces?_colonText smallBack _ (by
        rw [List.length_append, List.length_singleton]
        omega)
    have eight : fillGap? (front ++ [0] ++ back) (some (front.length + 1))
        = some (ip.pieces.map (·.val)) := by
      have front_length : (front ++ [0]).length = front.length + 1 := List.length_append
      have zeros : List.replicate run 0 = [0] ++ List.replicate (run - 1) 0 := by
        obtain ⟨k, rfl⟩ : ∃ k, run = k + 1 := ⟨run - 1, by omega⟩
        rfl
      have missing : 8 - (front ++ [0] ++ back).length = run - 1 := by
        rw [List.length_append, front_length]
        omega
      rw [fillGap?, missing, ← front_length, List.take_left, List.drop_left, parts, zeros]
      simp only [List.append_assoc]
    cases front with
    | nil =>
        show Ipv6.read? (':' :: ':' :: colonText back) = some ip
        rw [Ipv6.read?_colons]
        exact (congrArg Ipv6.ofPieces? read).trans (Ipv6.ofPieces?_eq eight)
    | cons n more =>
        have whole : readPieces? (colonText (n :: more) ++ ':' :: ':' :: colonText back) [] none
            = some (n :: more ++ [0] ++ back, some ((n :: more).length + 1)) := by
          rw [readPieces?_before_gap (List.cons_ne_nil _ _) smallFront (by
            rw [List.length_nil]
            omega), List.nil_append, List.length_nil, Nat.zero_add]
          exact read
        obtain ⟨c, rest, text, first⟩ := colonText_cons n more
        rw [List.append_assoc]
        show Ipv6.read? (colonText (n :: more) ++ ':' :: ':' :: colonText back) = some ip
        rw [text, List.cons_append] at whole ⊢
        rw [Ipv6.read?_cons first (by simp), whole]
        exact Ipv6.ofPieces?_eq eight
  · -- Without a gap all pieces are written.
    have eight : fillGap? (ip.pieces.map (·.val)) none = some (ip.pieces.map (·.val)) := rfl
    rw [← Ipv6.ofPieces?_eq eight]
    have whole : readPieces? (colonText (ip.pieces.map (·.val))) [] none
        = some (ip.pieces.map (·.val), none) :=
      readPieces?_colonText small none (Nat.le_of_eq ((Nat.zero_add _).trans count))
    generalize ip.pieces.map (·.val) = pieces at count whole eight ⊢
    match pieces, count with
    | n :: m :: more, count =>
      obtain ⟨c, rest, text, first⟩ := colonText_cons n (m :: more)
      have longer : rest ≠ [] := by
        rintro rfl
        have length := congrArg List.length text
        have some : 0 < (hex n).length := List.length_pos_iff.mpr (Text.hex_ne_nil n)
        rw [colonText_cons_cons, List.length_append, List.length_cons, List.length_singleton]
          at length
        omega
      rw [text] at whole ⊢
      rw [Ipv6.read?_cons first longer, whole]

/-- The characters of an address of eight pieces. -/
theorem Ipv6.forall_mem_text {P : Char → Prop} (digit : ∀ v : Fin 16, P v.val.digitChar)
    (colon : P ':') (ip : Ipv6) : ∀ c ∈ ip.text, P c := by
  have pieces : ∀ pieces : List Nat, ∀ c ∈ colonText pieces, P c := by
    intro pieces c h
    rcases Text.mem_intercalate h with h | ⟨part, here, h⟩
    · rw [List.mem_singleton.mp h]
      exact colon
    · obtain ⟨n, -, rfl⟩ := List.mem_map.mp here
      exact Text.forall_mem_hex digit n c h
  intro c h
  unfold Ipv6.text at h
  dsimp only at h
  split at h
  · rw [List.mem_append, List.mem_append] at h
    rcases h with (h | h) | h
    · exact pieces _ c h
    · simp only [List.mem_cons, List.not_mem_nil, or_false, or_self] at h
      rw [h]
      exact colon
    · exact pieces _ c h
  · exact pieces _ c h

end WebCapture.Url
