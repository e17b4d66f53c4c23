import SignIn.Proofs.Callback.Modes
import SignIn.Proofs.Url.Encoding

namespace SignIn

namespace Base64

/-- Only the number 62 has the symbol `+`. -/
theorem symbol_eq_plus_iff : ∀ v < 64, Alphabet.standard.symbol v = '+' ↔ v = 62 := by
  decide

private theorem head?_encode_eq_plus_iff {b : UInt8} {rest : Bytes} :
    (encode .standard (b :: rest)).head? = some '+' ↔ b.toNat / 4 = 62 := by
  have hb := b.toNat_lt
  obtain ⟨more, hmore⟩ := exists_sextets_cons b rest
  rw [encode, hmore, List.map_cons, List.head?_cons, Option.some.injEq]
  exact symbol_eq_plus_iff _ (by omega)

/-- If the numbers of some bytes go on behind those of others with nothing but 62, a byte that is not zero comes
next. -/
theorem exists_append_of_sextets {bytes kept : Bytes} {n : Nat}
    (hsextets : sextets bytes = sextets kept ++ List.replicate (n + 1) 62) :
    ∃ b more, b ≠ 0 ∧ bytes = kept ++ b :: more := by
  have hne : ∀ {b : UInt8}, b.toNat ≠ 0 → b ≠ 0 := by
    rintro _ hb rfl
    exact hb rfl
  -- The groups that both have in full are taken off. It is the last group of `kept` that goes on with 62.
  fun_induction sextets kept generalizing bytes with
  | case1 a b c rest ih =>
    rcases bytes with _ | ⟨x, _ | ⟨y, _ | ⟨z, tail⟩⟩⟩
    case cons.cons.cons =>
      simp only [sextets, List.cons_append, List.cons.injEq] at hsextets
      obtain ⟨hfirst, hsecond, hthird, hfourth, hrest⟩ := hsextets
      have hgroup : [x, y, z] = [a, b, c] := by
        rw [← groupBytes_sextets x y z, hfirst, hsecond, hthird, hfourth, groupBytes_sextets]
      obtain ⟨d, more, hd, rfl⟩ := ih hrest
      exact ⟨d, more, hd, congrArg (· ++ (rest ++ d :: more)) hgroup⟩
    all_goals simp [sextets] at hsextets
  | case2 a b =>
    rcases bytes with _ | ⟨x, _ | ⟨y, _ | ⟨z, tail⟩⟩⟩
    case cons.cons.cons =>
      simp only [sextets, List.replicate_succ, List.cons_append, List.nil_append, List.cons.injEq] at hsextets
      obtain ⟨hfirst, hsecond, hthird, hfourth, -⟩ := hsextets
      have hb := b.toNat_lt
      have hy := y.toNat_lt
      have hz := z.toNat_lt
      obtain rfl : x = a := UInt8.toNat_inj.1 (by omega)
      obtain rfl : y = b := UInt8.toNat_inj.1 (by omega)
      exact ⟨z, tail, hne (by omega), rfl⟩
    all_goals simp [sextets, List.replicate_succ] at hsextets
  | case3 a =>
    rcases bytes with _ | ⟨x, _ | ⟨y, _ | ⟨z, tail⟩⟩⟩
    case cons.cons.cons =>
      simp only [sextets, List.replicate_succ, List.cons_append, List.nil_append, List.cons.injEq] at hsextets
      obtain ⟨hfirst, hsecond, hthird, -⟩ := hsextets
      have hy := y.toNat_lt
      have hz := z.toNat_lt
      obtain rfl : x = a := UInt8.toNat_inj.1 (by omega)
      exact ⟨y, z :: tail, hne (by omega), rfl⟩
    case cons.cons.nil =>
      -- The third number of two bytes is a multiple of four, which 62 is not.
      simp only [sextets, List.replicate_succ, List.cons_append, List.nil_append, List.cons.injEq] at hsextets
      omega
    all_goals simp [sextets, List.replicate_succ] at hsextets
  | case4 =>
    cases bytes with
    | nil => simp [sextets] at hsextets
    | cons x tail =>
      obtain ⟨more, hmore⟩ := exists_sextets_cons x tail
      rw [hmore, List.nil_append, List.replicate_succ] at hsextets
      have hfirst := (List.cons.inj hsextets).1
      exact ⟨x, tail, hne (by omega), rfl⟩

private theorem exists_append_of_encode {bytes kept : Bytes} {n : Nat}
    (hencode : encode .standard bytes = encode .standard kept ++ List.replicate (n + 1) '+') :
    ∃ b more, b ≠ 0 ∧ bytes = kept ++ b :: more := by
  have hplus : List.replicate (n + 1) '+' = (List.replicate (n + 1) 62).map Alphabet.standard.symbol := by
    rw [List.map_replicate, (symbol_eq_plus_iff 62 (by decide)).2 rfl]
  rw [encode, encode, hplus, ← List.map_append] at hencode
  refine exists_append_of_sextets (eq_of_map_symbol_eq sextets_lt (fun v hv => ?_) hencode)
  rcases List.mem_append.1 hv with hv | hv
  · exact sextets_lt v hv
  · rw [List.eq_of_mem_replicate hv]
    decide

private theorem exists_ne_zero_of_plus_mem_encode {bytes : Bytes} (hplus : '+' ∈ encode .standard bytes) :
    ¬ ∀ b ∈ bytes, b = 0 := by
  intro hzero
  obtain ⟨v, hv, hsymbol⟩ := List.mem_map.1 hplus
  rw [(symbol_eq_plus_iff v (sextets_lt v hv)).1 hsymbol] at hv
  cases sextets_eq_zero hzero 62 hv

end Base64

namespace SessionModes

open Form

private theorem getD_eq_of_ofBytes_eq {bytes other : Bytes} (hmask : ofBytes bytes = ofBytes other) {i : Nat}
    (hi : i < 8) :
    bytes.getD i 0 = other.getD i 0 := by
  have hplace (b : Bytes) : (b.take 8).getD i 0 = b.getD i 0 := by
    rw [List.getD_eq_getElem?_getD, List.getElem?_take_of_lt hi, List.getD_eq_getElem?_getD]
  rw [ofBytes_eq_iff] at hmask
  rw [← UInt8.toNat_inj, ← hplace bytes, ← hplace other, ← Bytes.littleEndian_div_mod, hmask,
    Bytes.littleEndian_div_mod]

private theorem ofBytes_eq_none_iff {bytes : Bytes} : ofBytes bytes = none ↔ ∀ b ∈ bytes.take 8, b = 0 := by
  have hempty : ofBytes [] = none := rfl
  rw [← hempty]
  constructor
  · intro hmask b hb
    obtain ⟨i, hi, rfl⟩ := List.getElem_of_mem hb
    have hbounds : i < 8 ∧ i < bytes.length := by
      rw [List.length_take] at hi
      omega
    have hzero := getD_eq_of_ofBytes_eq hmask hbounds.1
    rw [List.getD_eq_getElem?_getD, List.getElem?_eq_getElem hbounds.2, Option.getD_some] at hzero
    rw [List.getElem_take]
    exact hzero
  · intro hzero
    rw [ofBytes_eq_iff, List.eq_replicate_of_mem hzero, Bytes.littleEndian_replicate_zero]
    rfl

private theorem symbols_map_plainSpace {value : List Char} (hvalue : ∀ c ∈ value, Text.isBlank c = false) :
    symbols (String.ofList (value.map plainSpace)) = Text.trimBy (· = '+') value := by
  -- Read back, every character is what it was, and white space is what was a `+`. So trimming may come last.
  have hspaces : ∀ c ∈ value, (if plainSpace c = ' ' then '+' else plainSpace c) = c ∧
      Text.isBlank (plainSpace c) = decide (c = '+') := by
    intro c hc
    have hblank := hvalue c hc
    by_cases hplus : c = '+'
    · subst hplus
      exact ⟨rfl, rfl⟩
    · have hspace : c ≠ ' ' := by
        rintro rfl
        cases hblank
      rw [plainSpace, if_neg hplus, if_neg hspace, hblank, decide_eq_false hplus]
      exact ⟨rfl, rfl⟩
  have hback : ((value.map plainSpace).map fun c => if c = ' ' then '+' else c) = value := by
    rw [List.map_map]
    exact (List.map_congr_left fun c hc => (hspaces c hc).1).trans (List.map_id' value)
  have htrim : Text.trimBy (· = '+') ((value.map plainSpace).map fun c => if c = ' ' then '+' else c) =
      (Text.trimBy Text.isBlank (value.map plainSpace)).map fun c => if c = ' ' then '+' else c := by
    refine Text.trimBy_map fun d hd => ?_
    obtain ⟨c, hc, rfl⟩ := List.mem_map.1 hd
    rw [(hspaces c hc).1, (hspaces c hc).2]
  rw [symbols, String.toList_ofList, Text.trim, ← htrim, hback]

private theorem decodeText_paddedText (bytes : Bytes) (n : Nat) :
    decodeText (paddedText bytes n) = String.ofList ((paddedText bytes n).map plainSpace) := by
  refine decodeText_eq_map fun hpercent => ?_
  rcases List.mem_append.1 hpercent with hsymbol | hpad
  · exact Base64.notMem_encode (by decide) hsymbol
  · cases List.eq_of_mem_replicate hpad

private theorem symbols_decodeText (bytes : Bytes) (n : Nat) :
    symbols (decodeText (paddedText bytes n)) = Text.trimBy (· = '+') (paddedText bytes n) := by
  rw [decodeText_paddedText, symbols_map_plainSpace fun c hc => isBlank_of_mem_paddedText hc]

private theorem head?_paddedText_eq_plus_iff {bytes : Bytes} {n : Nat} :
    (paddedText bytes n).head? = some '+' ↔ ∃ b rest, bytes = b :: rest ∧ b.toNat / 4 = 62 := by
  cases bytes with
  | nil => cases n <;> simp [paddedText, Base64.encode, Base64.sextets, List.replicate_succ]
  | cons b rest =>
    have hne : Base64.encode .standard (b :: rest) ≠ [] := by
      rw [Ne, Base64.encode_eq_nil_iff]
      exact List.cons_ne_nil b rest
    rw [paddedText, List.head?_append_of_ne_nil _ hne, Base64.head?_encode_eq_plus_iff]
    simp

private theorem padding_eq_zero_of_getLast? {bytes : Bytes} {n : Nat}
    (hlast : (paddedText bytes n).getLast? = some '+') :
    n = 0 := by
  cases n with
  | zero => rfl
  | succ n => simp [paddedText, List.replicate_succ'] at hlast

/-- A mask whose text begins with a `+` never arrives, for no other first byte begins so. -/
theorem ofText_decodeText_ne_of_head? {bytes : Bytes} {n : Nat} (hhead : (paddedText bytes n).head? = some '+') :
    ofText (decodeText (paddedText bytes n)) ≠ ofBytes bytes := by
  obtain ⟨b, rest, rfl, hb⟩ := head?_paddedText_eq_plus_iff.1 hhead
  have hne : b ≠ 0 := by
    rintro rfl
    cases hb
  intro hmask
  by_cases hspells : ∃ kept, Spells (decodeText (paddedText (b :: rest) n)) kept
  · obtain ⟨kept, hkept⟩ := hspells
    rw [ofText_eq_ofBytes hkept] at hmask
    have hfirst : kept.getD 0 0 = b := getD_eq_of_ofBytes_eq hmask (by decide)
    cases kept with
    | nil => exact hne hfirst.symm
    | cons c more =>
      obtain rfl : c = b := hfirst
      obtain ⟨m, -, hsymbols⟩ := hkept
      rw [symbols_decodeText] at hsymbols
      have hplus : (Text.trimBy (· = '+') (paddedText (c :: rest) n)).head? = some '+' := by
        rw [hsymbols]
        exact head?_paddedText_eq_plus_iff.2 ⟨c, more, rfl, hb⟩
      simpa using Text.eq_false_of_mem_head?_trimBy hplus
  · rw [ofText_eq_none (not_exists.1 hspells)] at hmask
    exact hne (ofBytes_eq_none_iff.1 hmask.symm b List.mem_cons_self)

/-- What is read of a text that ends with a `+` spells the bytes before one that is not zero, if it spells any. -/
theorem exists_append_of_spells_decodeText {bytes kept : Bytes} {n : Nat}
    (hhead : (paddedText bytes n).head? ≠ some '+') (hlast : (paddedText bytes n).getLast? = some '+')
    (hkept : Spells (decodeText (paddedText bytes n)) kept) : ∃ b more, b ≠ 0 ∧ bytes = kept ++ b :: more := by
  obtain rfl := padding_eq_zero_of_getLast? hlast
  have hsent : paddedText bytes 0 = Base64.encode .standard bytes := List.append_nil _
  have hfront : ∀ c ∈ (paddedText bytes 0).head?, decide (c = '+') = false :=
    fun c hc => decide_eq_false fun hplus => hhead (hplus ▸ hc)
  obtain ⟨m, -, hsymbols⟩ := hkept
  rw [symbols_decodeText, Text.trimBy_eq_trimEnd hfront, hsent] at hsymbols
  rw [hsent] at hlast
  obtain ⟨trimmed, hencode⟩ := Text.exists_eq_trimEnd_append_of_getLast? hlast
  rw [hsymbols] at hencode
  have hpadding : m = 0 := by
    by_contra hm
    refine Base64.notMem_encode (a := .standard) (c := '=') (by decide) (?_ : '=' ∈ Base64.encode .standard bytes)
    rw [hencode]
    exact List.mem_append_left _ (List.mem_append_right _ (List.mem_replicate.2 ⟨hm, rfl⟩))
  rw [hpadding, List.replicate_zero, List.append_nil] at hencode
  exact Base64.exists_append_of_encode hencode

private theorem ofBytes_eq_ofBytes_append_iff {kept : Bytes} {b : UInt8} {more : Bytes} (hb : b ≠ 0) :
    ofBytes kept = ofBytes (kept ++ b :: more) ↔ 8 ≤ kept.length := by
  constructor
  · intro hmask
    by_contra hshort
    have hnext := getD_eq_of_ofBytes_eq hmask (Nat.lt_of_not_le hshort)
    exact hb (by simpa using hnext.symm)
  · exact fun hlength => (ofBytes_append_of_eight_le hlength _).symm

/-- What the mask of a text that ends with a `+` depends on. -/
theorem ofText_decodeText_eq_iff_of_getLast? {bytes : Bytes} {n : Nat}
    (hhead : (paddedText bytes n).head? ≠ some '+') (hlast : (paddedText bytes n).getLast? = some '+') :
    ofText (decodeText (paddedText bytes n)) = ofBytes bytes ↔
      (∃ kept, Spells (decodeText (paddedText bytes n)) kept ∧ 8 ≤ kept.length) ∨
        (∀ kept, ¬ Spells (decodeText (paddedText bytes n)) kept) ∧ ∀ b ∈ bytes.take 8, b = 0 := by
  by_cases hspells : ∃ kept, Spells (decodeText (paddedText bytes n)) kept
  · obtain ⟨kept, hkept⟩ := hspells
    obtain ⟨b, more, hb, hbytes⟩ := exists_append_of_spells_decodeText hhead hlast hkept
    rw [ofText_eq_ofBytes hkept, hbytes, ofBytes_eq_ofBytes_append_iff hb, ← hbytes]
    constructor
    · exact fun hlength => .inl ⟨kept, hkept, hlength⟩
    · rintro (⟨other, hother, hlength⟩ | ⟨hnone, -⟩)
      · rwa [hkept.unique hother]
      · exact absurd hkept (hnone kept)
  · have hnone := not_exists.1 hspells
    rw [ofText_eq_none hnone, eq_comm, ofBytes_eq_none_iff]
    constructor
    · exact fun hzero => .inr ⟨hnone, hzero⟩
    · rintro (⟨kept, hkept, -⟩ | ⟨-, hzero⟩)
      · exact absurd hkept (hnone kept)
      · exact hzero

/-- A mask that is sent with its `+` unescaped is the same where it arrives exactly if its text does not begin with a
`+` and, if it ends with one, what is left of the text either spells the first eight bytes nevertheless or spells
nothing, as a mask of zeros does. So up to eight bytes arrive exactly if no `+` stands at either end. -/
theorem ofText_decodeText_eq_iff {bytes : Bytes} {n : Nat} (hn : n ≤ (3 - bytes.length % 3) % 3) :
    let sent := Base64.encode .standard bytes ++ List.replicate n '='
    let received := Form.decodeText sent
    received = String.ofList (sent.map fun c => if c = '+' then ' ' else c) ∧
    (ofText (String.ofList sent)).bits.toNat = Bytes.littleEndian (bytes.take 8) ∧
    (ofText received = ofText (String.ofList sent) ↔ sent.head? ≠ some '+' ∧
      (sent.getLast? = some '+' →
        (∃ kept, Spells received kept ∧ 8 ≤ kept.length) ∨
          (∀ kept, ¬ Spells received kept) ∧ ∀ b ∈ bytes.take 8, b = 0)) ∧
    (bytes.length ≤ 8 →
      (ofText received = ofText (String.ofList sent) ↔ sent.head? ≠ some '+' ∧ sent.getLast? ≠ some '+')) := by
  intro sent received
  have hsent : ofText (String.ofList sent) = ofBytes bytes := ofText_eq_ofBytes (spells_paddedText hn)
  have hinside (hhead : sent.head? ≠ some '+') (hlast : sent.getLast? ≠ some '+') :
      ofText received = ofBytes bytes := by
    refine ofText_eq_ofBytes ⟨n, hn, ?_⟩
    have hends : ∀ c, c ≠ '+' → decide (c = '+') = false := fun c hc => decide_eq_false hc
    have htrim : Text.trimBy (· = '+') sent = sent := by
      rw [Text.trimBy_eq_trimEnd fun c hc => hends c fun h => hhead (h ▸ hc)]
      exact Text.trimEnd_eq_self_of_getLast? fun c hc => hends c fun h => hlast (h ▸ hc)
    exact (symbols_decodeText bytes n).trans htrim
  rw [hsent]
  refine ⟨decodeText_paddedText bytes n, toNat_bits_ofBytes bytes, ?_, fun hshort => ?_⟩
  · by_cases hhead : sent.head? = some '+'
    · exact iff_of_false (ofText_decodeText_ne_of_head? hhead) fun h => h.1 hhead
    · by_cases hlast : sent.getLast? = some '+'
      · refine (ofText_decodeText_eq_iff_of_getLast? hhead hlast).trans ?_
        exact ⟨fun h => ⟨hhead, fun _ => h⟩, fun h => h.2 hlast⟩
      · exact iff_of_true (hinside hhead hlast) ⟨hhead, fun h => absurd h hlast⟩
  · refine ⟨fun hmask => ⟨fun hhead => ofText_decodeText_ne_of_head? hhead hmask, fun hlast => ?_⟩,
      fun h => hinside h.1 h.2⟩
    have hhead : sent.head? ≠ some '+' := fun hhead => ofText_decodeText_ne_of_head? hhead hmask
    rcases (ofText_decodeText_eq_iff_of_getLast? hhead hlast).1 hmask with ⟨kept, hkept, hlength⟩ | ⟨-, hzero⟩
    · obtain ⟨b, more, -, hbytes⟩ := exists_append_of_spells_decodeText hhead hlast hkept
      rw [hbytes, List.length_append, List.length_cons] at hshort
      omega
    · obtain rfl := padding_eq_zero_of_getLast? hlast
      rw [List.take_of_length_le hshort] at hzero
      refine Base64.exists_ne_zero_of_plus_mem_encode ?_ hzero
      exact (List.mem_append.1 (List.mem_of_getLast? hlast)).resolve_right List.not_mem_nil

/-- A `+` between two symbols arrives, one in front of all symbols does not, and neither does one behind them. -/
theorem ofText_decodeText_eq_iff_of_three_masks :
    (ofText "A+A=").bits.toNat = 57347 ∧ ofText (Form.decodeText "A+A=".toList) = ofText "A+A=" ∧
      ofText (Form.decodeText "+w".toList) ≠ ofText "+w" ∧ ofText (Form.decodeText "AQA+".toList) ≠ ofText "AQA+" := by
  have hmiddle : Base64.encode .standard [3, 224] ++ List.replicate 1 '=' = "A+A=".toList := by decide +kernel
  have hfirst : Base64.encode .standard [251] ++ List.replicate 0 '=' = "+w".toList := by decide +kernel
  have hlast : Base64.encode .standard [1, 0, 62] ++ List.replicate 0 '=' = "AQA+".toList := by decide +kernel
  obtain ⟨-, hbits, -, harrives⟩ := @ofText_decodeText_eq_iff [3, 224] 1 (by decide)
  obtain ⟨-, -, -, hfront⟩ := @ofText_decodeText_eq_iff [251] 0 (by decide)
  obtain ⟨-, -, -, hback⟩ := @ofText_decodeText_eq_iff [1, 0, 62] 0 (by decide)
  rw [hmiddle, String.ofList_toList] at hbits harrives
  rw [hfirst, String.ofList_toList] at hfront
  rw [hlast, String.ofList_toList] at hback
  refine ⟨hbits, (harrives (by decide)).2 (by decide +kernel), fun hmask => ?_, fun hmask => ?_⟩
  · exact absurd ((hfront (by decide)).1 hmask) (by decide +kernel)
  · exact absurd ((hback (by decide)).1 hmask) (by decide +kernel)

/-- A single byte that wishes for a private session. Its first symbol is a `+`, which arrives as a space and is
trimmed, and what is left spells nothing. -/
theorem ofText_decodeText_loses_leading_plus :
    Base64.encode .standard [251] = ['+', 'w'] ∧ Form.decodeText ['+', 'w'] = " w" ∧
      ofText "+w" = ⟨251⟩ ∧ (ofText "+w").isPrivate = true ∧ ofText " w" = none ∧ (ofText " w").isPrivate = false := by
  refine ⟨?_, ?_, ?_, ?_, ?_, ?_⟩ <;> decide +kernel

end SessionModes

end SignIn
