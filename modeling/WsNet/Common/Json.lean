import WsNet.Common.Message

/-! The JSON text of a response.

`serde_json` writes the name of the variant under `type`, then the fields in their
order, and a vector of bytes as an array of decimal numbers: a byte takes one to three
characters, and a comma. The text of an HttpResponse is spelled out, up to that of its
headers; the other messages' is left to the codec. -/
namespace WsNet
open Data

/-! ### Arrays of bytes -/

def byteText (b : UInt8) : List Char := Nat.toDigits 10 b.toNat

/-- A byte vector, as an array of numbers. -/
def arrayText (body : Bytes) : List Char := '[' :: ([','].intercalate (body.map byteText) ++ [']'])

/-- The digits of a byte. -/
def byteSize (b : UInt8) : Nat := if b < 10 then 1 else if b < 100 then 2 else 3

def arraySize (body : Bytes) : Nat := (body.map byteSize).sum + (body.length - 1) + 2

theorem byteText_length (b : UInt8) : (byteText b).length = byteSize b := by
  have hall : ∀ n < 256, (Nat.toDigits 10 n).length = if n < 10 then 1 else if n < 100 then 2 else 3 := by
    decide +kernel
  have hb := hall b.toNat b.toNat_lt
  simp only [byteSize, UInt8.lt_iff_toNat_lt]
  exact hb

theorem arrayText_length (body : Bytes) : (arrayText body).length = arraySize body := by
  have hinner : ([','].intercalate (body.map byteText)).length =
      (body.map byteSize).sum + (body.length - 1) := by
    induction body with
    | nil => rfl
    | cons b body ih =>
      cases body with
      | nil => simp [byteText_length]
      | cons b' body =>
        have hsum : ((b :: b' :: body).map byteSize).sum = byteSize b + ((b' :: body).map byteSize).sum :=
          List.sum_cons
        rw [List.map_cons, List.map_cons, List.intercalate_cons_cons, ← List.map_cons,
          List.length_append, ih, List.length_append, byteText_length, hsum]
        simp only [List.length_cons, List.length_nil]
        omega
  rw [arrayText, List.length_cons, List.length_append, hinner, List.length_singleton, arraySize]

theorem byteText_digit {b : UInt8} {c : Char} (h : c ∈ byteText b) : c.isDigit = true :=
  Nat.isDigit_of_mem_toDigits (by decide) (by decide) h

theorem mem_intercalate {x : Char} {ls : List (List Char)} (h : x ∈ [','].intercalate ls) :
    x = ',' ∨ ∃ l ∈ ls, x ∈ l := by
  induction ls with
  | nil => cases h
  | cons l ls ih =>
    cases ls with
    | nil => exact .inr ⟨l, List.mem_cons_self, by simpa using h⟩
    | cons l' ls =>
      rw [List.intercalate_cons_cons] at h
      rcases List.mem_append.mp h with h | h
      · rcases List.mem_append.mp h with h | h
        · exact .inr ⟨l, List.mem_cons_self, h⟩
        · exact .inl (List.mem_singleton.mp h)
      · rcases ih h with h | ⟨m, hm, h⟩
        · exact .inl h
        · exact .inr ⟨m, List.mem_cons_of_mem l hm, h⟩

/-- Digits and commas. -/
theorem mem_arrayText {body : Bytes} {x : Char} (h : x ∈ [','].intercalate (body.map byteText)) :
    x = ',' ∨ x.isDigit = true := by
  rcases mem_intercalate h with h | ⟨l, hl, hx⟩
  · exact .inl h
  · obtain ⟨b, _, rfl⟩ := List.mem_map.mp hl
    exact .inr (byteText_digit hx)

theorem digit_lt {c : Char} (h : c.isDigit = true) : c.toNat < 128 := by
  simp only [Char.isDigit, Bool.and_eq_true, decide_eq_true_eq] at h
  have hle : c.val.toNat ≤ 57 := h.2
  exact Nat.lt_of_le_of_lt hle (by decide)

/-- The array takes one byte a character. -/
theorem bytesOf_arrayText (body : Bytes) :
    (bytesOf (String.ofList (arrayText body))).length = arraySize body := by
  have hascii : ∀ c ∈ (String.ofList (arrayText body)).toList, c.toNat < 128 := by
    intro c hc
    rw [String.toList_ofList, arrayText, List.mem_cons, List.mem_append, List.mem_singleton] at hc
    rcases hc with rfl | hc | rfl
    · decide
    · rcases mem_arrayText hc with rfl | hd
      · decide
      · exact digit_lt hd
    · decide
  rw [bytesOf_ascii hascii, List.length_map, String.toList_ofList, arrayText_length]

/-- Between two and four characters a byte. -/
theorem arraySize_bounds {body : Bytes} (h : body ≠ []) :
    2 * body.length + 1 ≤ arraySize body ∧ arraySize body ≤ 4 * body.length + 1 := by
  have hsum : body.length ≤ (body.map byteSize).sum ∧ (body.map byteSize).sum ≤ 3 * body.length := by
    clear h
    induction body with
    | nil => exact ⟨Nat.le_refl 0, Nat.le_refl 0⟩
    | cons b body ih =>
      have hb : 1 ≤ byteSize b ∧ byteSize b ≤ 3 := by
        unfold byteSize
        split
        · decide
        · split <;> decide
      rw [List.map_cons, List.sum_cons, List.length_cons]
      omega
  have hpos := List.length_pos_of_ne_nil h
  unfold arraySize
  omega

theorem arraySize_replicate (n : Nat) (b : UInt8) :
    arraySize (List.replicate n b) = n * byteSize b + (n - 1) + 2 := by
  rw [arraySize, List.map_replicate, List.sum_replicate_nat, List.length_replicate]

/-! ### Responses -/

/-- All of a response's text before its body. -/
def responseHead (id : StreamId) (status : UInt16) (headers : String) : String :=
  "\x7b\"type\":\"HTTP_RESPONSE\",\"stream_id\":" ++ toString id ++ ",\"response\":\x7b\"status\":" ++
    toString status.toNat ++ ",\"headers\":" ++ headers ++ ",\"body\":"

/-- The messages' codec, with the text of an HttpResponse. -/
class SerdeJson extends MessageCodec where
  /-- The text of a list of pairs of strings. -/
  headersText : List (String × String) → String
  encode_httpResponse : ∀ id r, encodeMessage (.httpResponse id r) =
    responseHead id r.status (headersText r.headers) ++ String.ofList (arrayText r.body) ++ "\x7d\x7d"

/-- The bytes of a response's text. -/
def responseSize [SerdeJson] (id : StreamId) (r : HttpResponsePayload) : Nat :=
  (bytesOf (responseHead id r.status (SerdeJson.headersText r.headers))).length + arraySize r.body + 2

theorem encode_httpResponse_length [SerdeJson] (id : StreamId) (r : HttpResponsePayload) :
    (bytesOf (encodeMessage (.httpResponse id r))).length = responseSize id r := by
  have hclosing : (bytesOf "\x7d\x7d").length = 2 := by decide +kernel
  rw [SerdeJson.encode_httpResponse, bytesOf_append, bytesOf_append, List.length_append,
    List.length_append, bytesOf_arrayText, hclosing, responseSize]

/-! ### A codec to run -/

namespace Json

/-- A number, up to the comma. -/
def decimal : Codec Nat :=
  .upTo ',' (Nat.toDigits 10) (fun text => Nat.ofDigitChars 10 text 0)
    (fun _ h => absurd (Nat.isDigit_of_mem_toDigits (by decide) (by decide) h) (by decide))
    fun _ => Nat.ofDigitChars_ten_toDigits

def readNumbers (text : List Char) : Bytes :=
  if text = [] then [] else (text.splitOn ',').map fun number => UInt8.ofNat (Nat.ofDigitChars 10 number 0)

theorem readNumbers_intercalate (body : Bytes) :
    readNumbers ([','].intercalate (body.map byteText)) = body := by
  cases body with
  | nil => rfl
  | cons b body =>
    have hsplit : ([','].intercalate ((b :: body).map byteText)).splitOn ',' = (b :: body).map byteText := by
      refine List.splitOn_intercalate ',' ?_ (List.cons_ne_nil _ _)
      intro l hl hcomma
      obtain ⟨b, _, rfl⟩ := List.mem_map.mp hl
      exact absurd (byteText_digit hcomma) (by decide)
    have hne : [','].intercalate ((b :: body).map byteText) ≠ [] := by
      intro hnil
      have hempty : (b :: body).map byteText = [[]] := by
        rw [← hsplit, hnil]
        rfl
      rw [List.map_cons] at hempty
      exact Nat.toDigits_ne_nil (List.cons.inj hempty).1
    rw [readNumbers, if_neg hne, hsplit, List.map_map]
    conv_rhs => rw [← List.map_id (b :: body)]
    refine List.map_congr_left fun b _ => ?_
    simp [byteText, Nat.ofDigitChars_ten_toDigits]

/-- The numbers of an array, up to its bracket. -/
def numbers : Codec Bytes :=
  .upTo ']' (fun body => [','].intercalate (body.map byteText)) readNumbers
    (fun _ h => by
      rcases mem_arrayText h with h | h
      · exact absurd h (by decide)
      · exact absurd h (by decide))
    readNumbers_intercalate

/-- JSON for a response without headers. -/
def headers : Codec (List (String × String)) where
  write
    | [] => ['[', ']']
    | h :: l => '[' :: (Codec.list (.pair .string .string)).write (h :: l) ++ [']']
  read text :=
    if text.take 2 = ['[', ']'] then some ([], text.drop 2)
    else ((Codec.list (.pair .string .string)).read (text.drop 1)).map fun r => (r.1, r.2.drop 1)
  read_write l rest := by
    cases l with
    | nil => simp
    | cons h l =>
      have hne : ('[' :: (Codec.list (.pair .string .string)).write (h :: l) ++ [']'] ++ rest).take 2 ≠
          ['[', ']'] := by
        simp [Codec.list, Codec.nat, List.replicate_succ]
      rw [if_neg hne, List.append_assoc, List.cons_append, List.drop_one, List.tail_cons,
        Codec.read_write]
      rfl

def response : Codec (Nat × Nat × List (String × String) × Bytes) :=
  .after "\x7b\"type\":\"HTTP_RESPONSE\",\"stream_id\":".toList <| .pair decimal <|
  .after "\"response\":\x7b\"status\":".toList <| .pair decimal <|
  .after "\"headers\":".toList <| .pair headers <|
  .after ",\"body\":[".toList numbers

def encode : Message → String
  | .httpResponse id r =>
    String.ofList (response.write (id, r.status.toNat, r.headers, r.body) ++ ['\x7d', '\x7d'])
  | m => MessageCodec.plain.encodeMessage m

/-- Only the text of a response starts with a brace. -/
def decode (text : String) : Option Message :=
  if text.toList.head? = some '\x7b' then
    (response.read text.toList).map fun r =>
      .httpResponse r.1.1 ⟨UInt16.ofNat r.1.2.1, r.1.2.2.1, r.1.2.2.2⟩
  else MessageCodec.plain.decodeMessage text

theorem plain_head (m : Message) : (MessageCodec.plain.encodeMessage m).toList.head? ≠ some '\x7b' := by
  have hnat : ∀ (n : Nat) (l : List Char), (Codec.nat.write n ++ l).head? ≠ some '\x7b' := by
    intro n l
    cases n <;> simp [Codec.nat, List.replicate_succ]
  exact String.toList_ofList ▸ hnat _ _

theorem decode_encode (m : Message) : decode (encode m) = some m := by
  have plain : ∀ m, decode (MessageCodec.plain.encodeMessage m) = some m := fun m => by
    rw [decode, if_neg (plain_head m), MessageCodec.plain.decode_encode]
  cases m with
  | httpResponse id r =>
    have hhead : (encode (.httpResponse id r)).toList.head? = some '\x7b' := by
      rw [encode, String.toList_ofList]
      rfl
    rw [decode, if_pos hhead, encode, String.toList_ofList, Codec.read_write]
    simp
  | _ => exact plain _

theorem response_write (id : StreamId) (status : Nat) (h : List (String × String)) (body : Bytes) :
    response.write (id, status, h, body) =
      "\x7b\"type\":\"HTTP_RESPONSE\",\"stream_id\":".toList ++ (Nat.toDigits 10 id ++ [','] ++
      ("\"response\":\x7b\"status\":".toList ++ (Nat.toDigits 10 status ++ [','] ++
      ("\"headers\":".toList ++ (headers.write h ++
      (",\"body\":[".toList ++ ([','].intercalate (body.map byteText) ++ [']']))))))) := rfl

/-- The commas and the bracket, which the codec reads with what is before them. -/
theorem join_eq {intro status headers body closing status' headers' body' id code h array : List Char}
    (hstatus : status = ',' :: status') (hheaders : headers = ',' :: headers') (hbody : body' = body ++ ['[']) :
    intro ++ (id ++ [','] ++ (status' ++ (code ++ [','] ++ (headers' ++ (h ++ (body' ++ (array ++ [']']))))))) ++
        closing =
      intro ++ id ++ status ++ code ++ headers ++ h ++ body ++ '[' :: (array ++ [']']) ++ closing := by
  subst hstatus hheaders hbody
  simp only [List.append_assoc, List.cons_append, List.nil_append]

theorem responseHead_toList (id : StreamId) (status : UInt16) (h : List Char) :
    (responseHead id status (String.ofList h)).toList =
      "\x7b\"type\":\"HTTP_RESPONSE\",\"stream_id\":".toList ++ Nat.toDigits 10 id ++
        ",\"response\":\x7b\"status\":".toList ++ Nat.toDigits 10 status.toNat ++
        ",\"headers\":".toList ++ h ++ ",\"body\":".toList := by
  unfold responseHead
  simp only [String.toList_append, String.toList_ofList, Nat.toString_eq_ofList_toDigits]

theorem encode_httpResponse (id : StreamId) (r : HttpResponsePayload) :
    encode (.httpResponse id r) =
      responseHead id r.status (String.ofList (headers.write r.headers)) ++
        String.ofList (arrayText r.body) ++ "\x7d\x7d" := by
  have hwrite : (encode (.httpResponse id r)).toList =
      response.write (id, r.status.toNat, r.headers, r.body) ++ ['\x7d', '\x7d'] := String.toList_ofList
  have harray : (String.ofList (arrayText r.body)).toList = arrayText r.body := String.toList_ofList
  have hclosing : "\x7d\x7d".toList = ['\x7d', '\x7d'] := by decide +kernel
  apply String.toList_inj.mp
  rw [hwrite, String.toList_append, String.toList_append, responseHead_toList, harray, hclosing,
    response_write]
  exact join_eq (by decide +kernel) (by decide +kernel) (by decide +kernel)

end Json

/-- Enough to run the program on responses, with the text of those without headers. -/
@[reducible] def SerdeJson.plain : SerdeJson where
  encodeMessage := Json.encode
  decodeMessage := Json.decode
  decode_encode := Json.decode_encode
  headersText l := String.ofList (Json.headers.write l)
  encode_httpResponse := Json.encode_httpResponse

end WsNet
