import Tlsurl.Core.Authorization
import Tlsurl.Multipart.Framing

/-! What a call of the bindings sends (`_send` of `bindings/node/client.cjs`, `_prepare` of
`bindings/python/python/tlsurl/__init__.py`).
A binding packs the parts of a form one after the other into one body and hands their ranges over;
`tlsurl-core` cuts the parts out again.
-/

namespace Tlsurl.Bindings

open Tlsurl.Core Multipart

-----------------------------------------------------------------------------------------
-- Calls
-----------------------------------------------------------------------------------------

/-- An entry of the `multipart` option, with the keys that are not known -/
structure FormField where
  name : String
  data : Option Bytes := none
  file : Option String := none
  filename : Option String := none
  contentType : Option String := none
  unknown : List String := []

/-- The options of a call that say what is sent, the texts of JSON and of a form already written;
`rest` has the others.
-/
structure Call where
  headers : List (Str × Bytes) := []
  body : Option Bytes := none
  json : Option Bytes := none
  form : Option Bytes := none
  multipart : Option (List FormField) := none
  bodyFile : Option String := none
  rest : RequestOptions := {}

/-- The bindings, which prepare a call alike -/
inductive Binding where
  | node
  | python
  deriving DecidableEq

/-- How a binding spells the option for a file that is the body -/
def Binding.bodyFile : Binding → String
  | .node => "bodyFile"
  | .python => "body_file"

/-- What a binding hands over -/
structure Prepared where
  headers : List (Str × Bytes)
  body : Option Bytes
  options : RequestOptions

/-- The parts packed so far -/
structure Packed where
  parts : List MultipartPart
  chunks : List Bytes
  offset : Nat
  counted : offset = chunks.flatten.length

def Packed.empty : Packed where
  parts := []
  chunks := []
  offset := 0
  counted := rfl

/-- The bytes of the chunks -/
def Packed.bytes (packed : Packed) : Bytes := packed.chunks.flatten

/-- The entry for a part, whose data starts at an offset -/
def FormField.descriptor (offset : Nat) (field : FormField) : MultipartPart :=
  match field.file with
  | some file =>
      { name := field.name, file := some file, filename := field.filename
        contentType := field.contentType }
  | none =>
      { name := field.name, offset, length := (field.data.getD []).length
        filename := field.filename, contentType := field.contentType }

/-- One turn of the loop over the parts -/
def packField (packed : Packed) (field : FormField) : Except Error Packed :=
  if field.unknown ≠ [] then .error (invalidRequest "unknown multipart field")
  else if field.data.isSome = field.file.isSome then
    .error (invalidRequest "multipart requires exactly one of data or file")
  else
    match field.data with
    | none => .ok { packed with parts := packed.parts ++ [field.descriptor packed.offset] }
    | some data =>
        .ok
          { parts := packed.parts ++ [field.descriptor packed.offset]
            chunks := packed.chunks ++ [data]
            offset := packed.offset + data.length
            counted := by simp [packed.counted] }

/-- The loop over the parts -/
def pack (fields : List FormField) : Except Error Packed := fields.foldlM packField .empty

namespace Call

/-- How many of the bodies are given -/
def bodies (call : Call) : Nat :=
  ([call.body.isSome, call.json.isSome, call.form.isSome, call.multipart.isSome,
    call.bodyFile.isSome].filter id).length

/-- The type of a text -/
def textType (call : Call) : Option Bytes :=
  if call.json.isSome then some (ascii "application/json")
  else if call.form.isSome then some (ascii "application/x-www-form-urlencoded")
  else none

/-- The headers, with the type of a text unless there is one -/
def typedHeaders (call : Call) : List (Str × Bytes) :=
  match call.textType with
  | none => call.headers
  | some type =>
      if call.headers.any (isNamed "content-type") then call.headers
      else call.headers ++ [(ascii "Content-Type", type)]

/-- `_send` and `_prepare` up to the call of the native client -/
def prepare (binding : Binding) (call : Call) : Except Error Prepared :=
  if call.bodies > 1 then
    .error (invalidRequest
      ("body, json, form, multipart and " ++ binding.bodyFile ++ " are mutually exclusive"))
  else
    match call.multipart with
    | none =>
        .ok
          { headers := call.typedHeaders
            body := call.json.or (call.form.or call.body)
            options := { call.rest with bodyFile := call.bodyFile, multipart := none } }
    | some fields => do
        let packed ← pack fields
        pure
          { headers := call.typedHeaders
            body := some packed.bytes
            options :=
              { call.rest with bodyFile := call.bodyFile, multipart := some packed.parts } }

end Call

-----------------------------------------------------------------------------------------
-- Packing and cutting
-----------------------------------------------------------------------------------------

variable {around : Surroundings}

/-- The part that stands for a field if it is packed alone -/
def FormField.part (around : Surroundings) (field : FormField)
    : Except Error (String × Multipart.Part Error) :=
  formPart around (field.data.getD []) (field.descriptor 0)

/-- A part is cut out of the bytes around it. -/
theorem formPart_packed (around : Surroundings) (field : FormField) (front back : Bytes)
    : formPart around (front ++ (field.data.getD [] ++ back)) (field.descriptor front.length)
      = field.part around := by
  have cut (data : Bytes)
      : partValue around (front ++ (data ++ back))
            { name := field.name, offset := front.length, length := data.length
              filename := field.filename, contentType := field.contentType }
        = partValue around data
            { name := field.name, offset := 0, length := data.length
              filename := field.filename, contentType := field.contentType } := by
    simp [partValue]
  simp only [FormField.part, formPart, FormField.descriptor]
  cases field.file with
  | some path => rfl
  | none => rw [cut]

variable (around) in
/-- What packing fields adds: their entries, and bytes that they are cut out of whatever follows,
by induction on the fields.
-/
theorem packed_parts {fields : List FormField} {start done : Packed}
    (packs : fields.foldlM packField start = .ok done)
    : ∃ parts back, done.parts = start.parts ++ parts ∧ done.bytes = start.bytes ++ back
      ∧ ∀ rest, parts.mapM (formPart around (start.bytes ++ (back ++ rest)))
          = fields.mapM (FormField.part around) := by
  induction fields generalizing start with
  | nil =>
      cases packs
      exact ⟨[], [], by simp, by simp, fun rest => rfl⟩
  | cons field fields ih =>
      rw [List.foldlM_cons] at packs
      obtain ⟨next, one, packs⟩ := bind_eq_ok packs
      obtain ⟨parts, back, entries, bytes, cut⟩ := ih packs
      have step : next.parts = start.parts ++ [field.descriptor start.bytes.length]
          ∧ next.bytes = start.bytes ++ field.data.getD [] := by
        have at_offset
            : start.parts ++ [field.descriptor start.offset]
              = start.parts ++ [field.descriptor start.bytes.length] :=
          congrArg (fun offset => start.parts ++ [field.descriptor offset]) start.counted
        unfold packField at one
        split at one
        · cases one
        · split at one
          · cases one
          · split at one
            · next absent =>
                cases one
                exact ⟨at_offset, by simp [Packed.bytes, absent]⟩
            · next data given =>
                cases one
                exact ⟨at_offset, by simp [Packed.bytes, given]⟩
      refine ⟨field.descriptor start.bytes.length :: parts, field.data.getD [] ++ back, ?_, ?_,
        fun rest => ?_⟩
      · rw [entries, step.1, List.append_assoc]
        rfl
      · rw [bytes, step.2, List.append_assoc]
      · have others := cut rest
        rw [step.2, List.append_assoc] at others
        rw [List.mapM_cons, List.mapM_cons, List.append_assoc, others, formPart_packed]

/-- What is cut out of the packed bytes is what each field stands for. -/
theorem mapM_formPart_pack {fields : List FormField} {packed : Packed}
    (packs : pack fields = .ok packed)
    : packed.parts.mapM (formPart around packed.bytes) = fields.mapM (FormField.part around) := by
  obtain ⟨parts, back, entries, bytes, cut⟩ := packed_parts around packs
  have all := cut []
  rw [List.append_nil, ← bytes] at all
  rw [← all, entries]
  rfl

-----------------------------------------------------------------------------------------
-- What a field stands for
-----------------------------------------------------------------------------------------

/-- A file that is uploaded is a regular one. -/
theorem fileBody_ok {path : String} {length : UInt64}
    (inspected : fileBody around path = .ok length)
    : around.inspect path = some (true, length) := by
  unfold fileBody at inspected
  split at inspected
  · cases inspected
  · next isFile size found =>
      split at inspected
      · next regular =>
          cases inspected
          rw [found, regular]
      · cases inspected

namespace FormField

/-- The bytes of a field: its data, or what its file yields -/
def content (around : Surroundings) (field : FormField) : Option Bytes :=
  match field.file with
  | some path => collect (around.read path)
  | none => some (field.data.getD [])

/-- What is told of a field: the file name that it has or that of its file, and its type -/
def metadata (around : Surroundings) (field : FormField) : PartMetadata :=
  { PartMetadata.new with
    fileName := field.filename.or (field.file.bind around.fileName)
    mime := field.contentType.bind around.mime }

/-- Whether the file of a field is a regular one and its type is one -/
def Usable (around : Surroundings) (field : FormField) : Prop :=
  (∀ path, field.file = some path → ∃ length, around.inspect path = some (true, length))
    ∧ ∀ type, field.contentType = some type → (around.mime type).isSome = true

/-- A field stands for a part of its name, with its bytes and what is told of it. -/
theorem part_spec {field : FormField} {part : String × Multipart.Part Error}
    (made : field.part around = .ok part)
    : (part.1, part.2.metadata, collect part.2.value)
        = (field.name, field.metadata around, field.content around)
      ∧ field.Usable around := by
  obtain ⟨value, valued, made⟩ := bind_eq_ok made
  have known : value.metadata = .new ∧ collect value.value = field.content around
      ∧ ∀ path, field.file = some path → ∃ length, around.inspect path = some (true, length) := by
    cases given : field.file with
    | none =>
        simp only [descriptor, given, partValue, Nat.zero_add, Nat.le_refl, if_true] at valued
        cases valued
        refine ⟨rfl, ?_, fun path other => by cases other⟩
        simp [content, given, collect]
    | some path =>
        simp only [descriptor, given, partValue] at valued
        rw [if_neg (by simp)] at valued
        obtain ⟨length, inspected, valued⟩ := bind_eq_ok valued
        cases valued
        refine ⟨rfl, by simp [content, given], fun other same => ?_⟩
        cases same
        exact ⟨length, fileBody_ok inspected⟩
  have names : (field.descriptor 0).filename.or ((field.descriptor 0).file.bind around.fileName)
      = field.filename.or (field.file.bind around.fileName) := by
    simp only [descriptor]
    cases given : field.file <;> rfl
  have type : (field.descriptor 0).contentType = field.contentType := by
    simp only [descriptor]
    cases field.file <;> rfl
  have name : (field.descriptor 0).name = field.name := by
    simp only [descriptor]
    cases field.file <;> rfl
  rw [names, type, name] at made
  cases typed : field.contentType with
  | none =>
      rw [typed] at made
      cases made
      refine ⟨?_, known.2.2, fun other same => by cases typed.symm.trans same⟩
      simp [metadata, typed, known.1, known.2.1, PartMetadata.new]
  | some type =>
      rw [typed] at made
      cases parsed : around.mime type with
      | none => simp [parsed] at made
      | some mime =>
          simp only [parsed] at made
          cases made
          refine ⟨?_, known.2.2, fun other same => ?_⟩
          · simp [metadata, typed, parsed, known.1, known.2.1]
          · cases typed.symm.trans same
            rw [parsed]
            rfl

end FormField

-----------------------------------------------------------------------------------------
-- What a request sends
-----------------------------------------------------------------------------------------

/-- A builder that has not failed has these types and this body. -/
def Sends (builder : RequestBuilder Core.Payload) (types : List Bytes)
    (payload : Option Core.Payload)
    : Prop :=
  ∀ built, builder.request = .ok built →
    built.headers.values "content-type" = types ∧ built.body = payload

variable {builder after : RequestBuilder Core.Payload} {types : List Bytes}
  {payload : Option Core.Payload} {options : RequestOptions}

/-- What edits neither headers nor the body keeps them. -/
theorem Sends.edit (sends : Sends builder types payload)
    {change : BuiltRequest Core.Payload → BuiltRequest Core.Payload}
    (kept : ∀ request, (change request).headers = request.headers
      ∧ (change request).body = request.body)
    : Sends (builder.edit change) types payload := by
  intro built edited
  cases before : builder.request with
  | error error => simp [RequestBuilder.edit, before, Except.map] at edited
  | ok request =>
      simp only [RequestBuilder.edit, before, Except.map, Except.ok.injEq] at edited
      rw [← edited, (kept request).1, (kept request).2]
      exact sends request before

/-- A header adds its value if it is the type, and nothing otherwise. -/
theorem Sends.headerSensitive (sends : Sends builder types payload) {key : Option HeaderName}
    {value : Option HeaderValue} {text : Bytes}
    (reads : ∀ given, value = some given → given.bytes = text) (sensitive : Bool)
    : Sends (builder.headerSensitive key value sensitive)
        (if key = some "content-type" then types ++ [text] else types) payload := by
  intro built accepted
  unfold RequestBuilder.headerSensitive at accepted
  cases before : builder.request with
  | error error => simp [before] at accepted
  | ok request =>
      cases key with
      | none => simp [before] at accepted
      | some name =>
          cases value with
          | none => simp [before] at accepted
          | some given =>
              simp only [before, Except.ok.injEq] at accepted
              obtain ⟨known, same⟩ := sends request before
              have bytes
                  : (if sensitive then { given with sensitive := true } else given).bytes
                    = text := by
                rw [← reads given rfl]
                split <;> rfl
              rw [← accepted]
              refine ⟨?_, same⟩
              by_cases named : name = "content-type"
              · subst named
                rw [if_pos rfl, HeaderMap.values, HeaderMap.getAll_append, if_pos rfl,
                  List.map_append, List.map_singleton, bytes]
                exact congrArg (· ++ [text]) known
              · have apart : ¬some name = some "content-type" := fun both =>
                  named (Option.some.inj both)
                rw [if_neg apart, HeaderMap.values, HeaderMap.getAll_append,
                  if_neg (Ne.symm named)]
                exact known

/-- Another header adds nothing. -/
theorem Sends.other (sends : Sends builder types payload) {key : Option HeaderName}
    (other : key ≠ some "content-type") (value : Option HeaderValue) (sensitive : Bool)
    : Sends (builder.headerSensitive key value sensitive) types payload := by
  have added
      : Sends (builder.headerSensitive key value sensitive)
          (if key = some "content-type" then types ++ [(value.map HeaderValue.bytes).getD []]
            else types)
          payload :=
    sends.headerSensitive (fun given same => by rw [same]; rfl) sensitive
  rwa [if_neg other] at added

/-- The values of the headers that are the type -/
def typesOf (headers : List (Str × Bytes)) : List Bytes :=
  (headers.filter (isNamed "content-type")).map Prod.snd

theorem fromBytes_contentType (header : Str × Bytes)
    : HeaderName.fromBytes header.1 = some "content-type"
      ↔ isNamed "content-type" header = true :=
  fromBytes_eq_iff (by decide) (by decide) (by decide)

/-- Headers add those that are the type, by induction on them. -/
theorem Sends.foldl_addHeader (sends : Sends builder types payload) (headers : List (Str × Bytes))
    : Sends (headers.foldl addHeader builder) (types ++ typesOf headers) payload := by
  induction headers generalizing builder types with
  | nil => simpa [typesOf] using sends
  | cons header headers ih =>
      have reads : ∀ given, HeaderValue.tryFrom header.2 = some given → given.bytes = header.2 := by
        intro given read
        rw [tryFrom_eq_some read]
      have one
          : Sends (addHeader builder header)
              (if HeaderName.fromBytes header.1 = some "content-type" then types ++ [header.2]
                else types)
              payload :=
        sends.headerSensitive reads false
      have added := ih one
      rw [List.foldl_cons]
      cases named : isNamed "content-type" header with
      | true =>
          rw [if_pos ((fromBytes_contentType header).mpr named)] at added
          simpa [typesOf, named] using added
      | false =>
          have other : ¬ HeaderName.fromBytes header.1 = some "content-type" := by
            rw [fromBytes_contentType, named]
            exact Bool.false_ne_true
          rw [if_neg other] at added
          simpa [typesOf, named] using added

theorem Sends.addHeaders (sends : Sends builder types payload) (headers : List (Str × Bytes))
    : Sends (addHeaders headers builder) (types ++ typesOf headers) payload := by
  have added := sends.foldl_addHeader headers
  unfold Core.addHeaders
  split
  · exact added.edit (fun _ => ⟨rfl, rfl⟩)
  · exact added

/-- A new request sends nothing. -/
theorem newRequest_sends (around : Surroundings) (method : Method) (url : Url)
    : Sends (newRequest around method url) [] none := by
  unfold newRequest RequestBuilder.new
  split
  · next error _ =>
      intro built accepted
      cases accepted
  · next request given =>
      have plain : Sends
          { request := .ok { request with uri := (extractAuthority around.crates request.uri).1 } }
          [] none := by
        intro built accepted
        split at given
        · cases given
        · cases given
          cases accepted
          exact ⟨rfl, rfl⟩
      split
      · exact plain
      · exact plain.other (by decide) _ true

theorem Sends.configure (sends : Sends builder types payload)
    (configured : configure options builder = .ok after)
    : Sends after types payload := by
  obtain ⟨limited, timed, redirected⟩ := configure_eq_ok configured
  have kept : Sends limited types payload := by
    rcases timed with rfl | ⟨timeout, rfl⟩
    · exact sends
    · exact sends.edit (fun _ => ⟨rfl, rfl⟩)
  rcases redirected with rfl | ⟨limit, rfl⟩
  · exact kept
  · exact kept.edit (fun _ => ⟨rfl, rfl⟩)

theorem Sends.authenticate (sends : Sends builder types payload) (around : Surroundings)
    (options : RequestOptions)
    : Sends (authenticate around.crates options builder) types payload := by
  have other : some authorization ≠ some ("content-type" : HeaderName) := by decide
  unfold Core.authenticate
  cases options.basicAuth with
  | none =>
      cases options.bearerToken with
      | none => exact sends
      | some token => exact sends.other other _ true
  | some credentials =>
      cases options.bearerToken with
      | none => exact sends.other other _ true
      | some token => exact (sends.other other _ true).other other _ true

/-- The type of a form -/
def multipartType (boundary : String) : Bytes :=
  ascii "multipart/form-data; boundary=" ++ utf8 boundary

/-- A form is the body, and its type is sent unless there is one. -/
theorem Sends.multipart (sends : Sends builder types none) (form : Multipart.Form Error)
    : Sends (builder.multipart .form form)
        (if types = [] then [multipartType form.boundary] else types) (some (.form form)) := by
  intro built accepted
  unfold RequestBuilder.multipart at accepted
  cases before : builder.request with
  | error error => simp [before] at accepted
  | ok request =>
      obtain ⟨known, _⟩ := sends request before
      cases typed : HeaderValue.tryFrom (multipartType form.boundary) with
      | none =>
          rw [multipartType] at typed
          simp [before, typed] at accepted
      | some value =>
          have bytes : value.bytes = multipartType form.boundary := by rw [tryFrom_eq_some typed]
          have measured (headers : HeaderMap) (length : HeaderValue)
              : (headers.orInsert "content-length" length).values "content-type"
                = headers.values "content-type" := by
            rw [HeaderMap.values, HeaderMap.getAll_orInsert, if_neg (by simp), HeaderMap.values]
          have set : (request.headers.orInsert "content-type" value).values "content-type"
              = if types = [] then [multipartType form.boundary] else types := by
            rw [← known]
            simp only [HeaderMap.values, HeaderMap.getAll_orInsert, true_and, List.map_eq_nil_iff]
            split
            · rw [List.map_singleton, bytes]
            · rfl
          rw [multipartType] at typed
          simp only [before, typed, Except.ok.injEq] at accepted
          rw [← accepted]
          refine ⟨?_, rfl⟩
          rw [← set]
          cases form.computeLength with
          | none => rfl
          | some length => exact measured _ _

/-- What the options of a request make of its body, and the types to go with it -/
theorem Sends.addBody (sends : Sends builder types none) {body : Option Bytes}
    (added : addBody around options body builder = .ok after)
    : match options.multipart, options.bodyFile with
      | some parts, _ =>
          ∃ fields, parts.mapM (formPart around (body.getD [])) = .ok fields
            ∧ Sends after (if types = [] then [multipartType around.boundary] else types)
              (some (.form { boundary := around.boundary, fields }))
      | none, some path =>
          ∃ length, around.inspect path = some (true, length)
            ∧ Sends after types (some (.file path length.toNat))
      | none, none => Sends after types (body.map .bytes) := by
  have sent {before : RequestBuilder Core.Payload} {prior : Option Core.Payload}
      (kept : Sends before types prior) (payload : Core.Payload)
      : Sends (before.body payload) types (some payload) := by
    intro built accepted
    unfold RequestBuilder.body RequestBuilder.edit at accepted
    cases request : before.request with
    | error error => simp [request, Except.map] at accepted
    | ok given =>
        simp only [request, Except.map, Except.ok.injEq] at accepted
        rw [← accepted]
        exact ⟨(kept given request).1, rfl⟩
  unfold Core.addBody at added
  cases given : options.multipart with
  | some parts =>
      rw [given] at added
      obtain ⟨fields, made, added⟩ := bind_eq_ok added
      cases added
      exact ⟨fields, made, sends.multipart { boundary := around.boundary, fields }⟩
  | none =>
      rw [given] at added
      cases file : options.bodyFile with
      | some path =>
          rw [file] at added
          obtain ⟨length, inspected, added⟩ := bind_eq_ok added
          cases added
          exact ⟨length, fileBody_ok inspected, sent (sends.other (by decide) _ false) _⟩
      | none =>
          rw [file] at added
          cases body with
          | none =>
              cases added
              exact sends
          | some body =>
              cases added
              exact sent sends _

-----------------------------------------------------------------------------------------
-- From the call to the request
-----------------------------------------------------------------------------------------

/-- The types that a call sends: those of its headers, or that of its text or its form -/
def Call.contentTypes (call : Call) (boundary : String) : List Bytes :=
  if typesOf call.headers ≠ [] then typesOf call.headers
  else
    match call.multipart with
    | some _ => [multipartType boundary]
    | none => call.textType.toList

/-- What the body of a request is for a call: a form whose parts have the names and the bytes of
the fields and tell what is told of them, so much of a file, or the text
-/
def Call.Delivers (around : Surroundings) (call : Call) (payload : Option Core.Payload) : Prop :=
  match call.multipart, call.bodyFile with
  | some fields, _ =>
      (∀ field ∈ fields, field.Usable around)
        ∧ ∃ form, payload = some (.form form) ∧ form.boundary = around.boundary
          ∧ form.percentEncoding = .pathSegment
          ∧ form.fields.map (fun part => (part.1, part.2.metadata, collect part.2.value))
            = fields.map (fun field => (field.name, field.metadata around, field.content around))
  | none, some path =>
      ∃ length, around.inspect path = some (true, length)
        ∧ payload = some (.file path length.toNat)
  | none, none => payload = (call.json.or (call.form.or call.body)).map .bytes

/-- The headers that a binding hands over have the types of the call. -/
theorem typesOf_typedHeaders (call : Call)
    : typesOf call.typedHeaders
      = if typesOf call.headers ≠ [] then typesOf call.headers else call.textType.toList := by
  have named : isNamed "content-type" (ascii "Content-Type", ([] : Bytes)) = true := by decide
  have added (type : Bytes)
      : typesOf (call.headers ++ [(ascii "Content-Type", type)])
        = typesOf call.headers ++ [type] := by
    simp only [typesOf, List.filter_append, List.map_append]
    congr 1
  have there : call.headers.any (isNamed "content-type") = true ↔ typesOf call.headers ≠ [] := by
    simp [typesOf, List.filter_eq_nil_iff]
  unfold Call.typedHeaders
  cases call.textType with
  | none =>
      by_cases given : typesOf call.headers = []
      · simp [given]
      · simp [given]
  | some type =>
      by_cases given : typesOf call.headers = []
      · simp [there, given, added]
      · simp [there, given]

/-- The parts of a form that `tlsurl-core` makes are what the fields of the call stand for, by
induction on the fields.
-/
theorem mapM_part_spec {fields : List FormField} {parts : List (String × Multipart.Part Error)}
    (made : fields.mapM (FormField.part around) = .ok parts)
    : parts.map (fun part => (part.1, part.2.metadata, collect part.2.value))
        = fields.map (fun field => (field.name, field.metadata around, field.content around))
      ∧ ∀ field ∈ fields, field.Usable around := by
  induction fields generalizing parts with
  | nil =>
      cases made
      exact ⟨rfl, fun field member => by cases member⟩
  | cons field fields ih =>
      rw [List.mapM_cons] at made
      obtain ⟨part, first, made⟩ := bind_eq_ok made
      obtain ⟨rest, others, made⟩ := bind_eq_ok made
      cases made
      obtain ⟨spec, usable⟩ := FormField.part_spec first
      obtain ⟨specs, all⟩ := ih others
      refine ⟨by rw [List.map_cons, List.map_cons, spec, specs], fun other member => ?_⟩
      rcases List.mem_cons.mp member with rfl | later
      · exact usable
      · exact all other later

/-- Beside a form there is no text. -/
theorem Call.textType_none (call : Call) (single : ¬call.bodies > 1)
    (form : call.multipart.isSome = true)
    : call.textType = none := by
  revert single
  rw [Call.bodies, Call.textType, form]
  cases call.body.isSome <;> cases call.json.isSome <;> cases call.form.isSome
    <;> cases call.bodyFile.isSome <;> simp

/-- A request that is sent for a call has the types and the body of the call. -/
theorem payload_delivered {binding : Binding} {call : Call} {prepared : Prepared}
    (prepares : call.prepare binding = .ok prepared) {method url : Str}
    {built : BuiltRequest Core.Payload}
    (sent
      : streamWithOptions around method url prepared.headers prepared.body prepared.options
        = .ok built)
    : built.headers.values "content-type" = call.contentTypes around.boundary
      ∧ call.Delivers around built.body := by
  obtain ⟨method, _, sent⟩ := bind_eq_ok sent
  obtain ⟨parsed, _, sent⟩ := bind_eq_ok sent
  obtain ⟨_, _, sent⟩ := bind_eq_ok sent
  obtain ⟨configured, limits, sent⟩ := bind_eq_ok sent
  obtain ⟨_, _, sent⟩ := bind_eq_ok sent
  obtain ⟨whole, added, sent⟩ := bind_eq_ok sent
  have accepted := mapError_eq_ok sent
  have start := newRequest_sends around method (extendPairs parsed prepared.options.params)
  have sends := (((start.configure limits).authenticate around prepared.options).addHeaders
    prepared.headers).addBody added
  rw [List.nil_append] at sends
  unfold Call.prepare at prepares
  split at prepares
  · cases prepares
  · next single =>
      cases given : call.multipart with
      | none =>
          rw [given] at prepares
          cases prepares
          simp only [typesOf_typedHeaders] at sends
          cases file : call.bodyFile with
          | none =>
              simp only [file] at sends
              have both := sends built accepted
              rw [Call.contentTypes, Call.Delivers, given, file]
              exact both
          | some path =>
              simp only [file] at sends
              obtain ⟨length, inspected, sends⟩ := sends
              have both := sends built accepted
              rw [Call.contentTypes, Call.Delivers, given, file]
              exact ⟨both.1, length, inspected, both.2⟩
      | some fields =>
          rw [given] at prepares
          obtain ⟨packed, packs, prepares⟩ := bind_eq_ok prepares
          cases prepares
          simp only [typesOf_typedHeaders] at sends
          obtain ⟨parts, made, sends⟩ := sends
          rw [Option.getD_some, mapM_formPart_pack packs] at made
          obtain ⟨specs, usable⟩ := mapM_part_spec made
          have both := sends built accepted
          refine ⟨?_, ?_⟩
          · rw [both.1, Call.contentTypes, given, call.textType_none single (by rw [given]; rfl)]
            by_cases typed : typesOf call.headers = [] <;> simp [typed]
          · rw [Call.Delivers, given]
            exact ⟨usable, _, both.2, rfl, rfl, specs⟩

/-- A request that is sent for a call has the types and the body of the call: nothing that a binding
packs is lost or mixed up on the way through `tlsurl-core`.
-/
theorem payload_arrives {binding : Binding} {call : Call} {prepared : Prepared}
    (prepares : call.prepare binding = .ok prepared) {method url : Str}
    {built : BuiltRequest Core.Payload}
    (sent
      : streamWithOptions around method url prepared.headers prepared.body prepared.options
        = .ok built)
    : built.headers.values "content-type" = call.contentTypes around.boundary
      ∧ call.Delivers around built.body :=
  payload_delivered prepares sent

/-- A form of two fields -/
def twoFields : Call where
  multipart :=
    some
      [{ name := "a", data := some (ascii "one") }
      , { name := "b", data := some (ascii "two"), filename := some "b.txt" }]

/-- The same, packed -/
def packedTwo : Prepared where
  headers := []
  body := some (ascii "onetwo")
  options :=
    { multipart :=
        some
          [{ name := "a", offset := 0, length := 3 }
          , { name := "b", offset := 3, length := 3, filename := some "b.txt" }] }

theorem twoFields_sent
    : ∃ built, streamWithOptions aliceSite (ascii "GET") aliceUrl.asStr packedTwo.headers
          packedTwo.body packedTwo.options
        = .ok built :=
  ⟨_, rfl⟩

theorem payload_arrives_two
    : twoFields.prepare .python = .ok packedTwo
      ∧ ∃ built, streamWithOptions aliceSite (ascii "GET") aliceUrl.asStr packedTwo.headers
            packedTwo.body packedTwo.options
          = .ok built
        ∧ built.headers.values "content-type" = [multipartType aliceSite.boundary]
        ∧ twoFields.Delivers aliceSite built.body := by
  have prepares : twoFields.prepare .python = .ok packedTwo := rfl
  obtain ⟨built, sent⟩ := twoFields_sent
  exact ⟨prepares, built, sent, payload_arrives prepares sent⟩

-----------------------------------------------------------------------------------------
-- From the call to the server
-----------------------------------------------------------------------------------------

/-- A form without custom headers is read back. -/
theorem readForm_plain {form : Multipart.Form Error} (filled : form.fields ≠ [])
    (bounded : IsBoundary form.boundary) (encodes : form.percentEncoding ≠ .noOp)
    (plain : ∀ field ∈ form.fields, field.2.metadata.headers = .empty) {contents : List Bytes}
    (given : form.fields.map (fun field => collect field.2.value) = contents.map some)
    (absent : ∀ content ∈ contents, ¬delimiter form.boundary <:+: content)
    : RoundTrips form contents := by
  have apart : ∀ field ∈ form.fields, ∀ header ∈ field.2.metadata.headers.iterBytes,
      isDelimiter form.boundary (headerLine header) = false := by
    intro field member header listed
    rw [plain field member] at listed
    cases listed
  obtain ⟨bytes, opening, rest, collected, split, delimits, found⟩ :=
    splitOnP_fields bounded encodes given absent apart
  have sectioned : sections form.boundary bytes
      = (List.zipWith (sectionLines form.percentEncoding) form.fields contents).map
          (Library.joinLines 13 10) := by
    rw [sections, split, List.splitOnP_cons_eq_if_modifyHead, if_pos delimits, found,
      List.tail_cons, List.dropLast_concat]
  have same : form.fields.length = contents.length := by simpa using congrArg List.length given
  obtain ⟨read, all, bodies, headers⟩ := mapM_readSection encodes same
  rw [← intoStream_eq filled] at collected
  exact ⟨bytes, read, collected, by rw [readForm, sectioned, all], bodies, headers⟩

/-- Whoever reads the body of a request for a form finds the fields of the call: for each field,
header lines with its name, its file name and its type, and its bytes.
-/
theorem upload_read_back {binding : Binding} {call : Call} {fields : List FormField}
    (form : call.multipart = some fields) (filled : fields ≠ []) {prepared : Prepared}
    (prepares : call.prepare binding = .ok prepared) {method url : Str}
    {built : BuiltRequest Core.Payload}
    (sent
      : streamWithOptions around method url prepared.headers prepared.body prepared.options
        = .ok built)
    (bounded : IsBoundary around.boundary) {contents : List Bytes}
    (given : fields.map (FormField.content around) = contents.map some)
    (absent : ∀ content ∈ contents, ¬delimiter around.boundary <:+: content)
    : ∃ form bytes found, built.body = some (.form form) ∧ collect form.intoStream = some bytes
      ∧ readForm around.boundary bytes = some found ∧ found.map Prod.snd = contents
      ∧ found.map Prod.fst
        = fields.map (fun field =>
            headerLines .pathSegment field.name (field.metadata around)) := by
  have delivers := (payload_delivered prepares sent).2
  rw [Call.Delivers, form] at delivers
  obtain ⟨_, made, body, boundary, encoding, specs⟩ := delivers
  have names := congrArg (List.map (fun spec => (spec.1, spec.2.1))) specs
  have values := congrArg (List.map (fun spec => spec.2.2)) specs
  simp only [List.map_map, Function.comp_def] at names values
  have plain : ∀ part ∈ made.fields, part.2.metadata.headers = .empty := by
    intro part member
    have listed := List.mem_map_of_mem
      (f := fun part : String × Multipart.Part Error => (part.1, part.2.metadata)) member
    rw [names] at listed
    obtain ⟨field, _, same⟩ := List.mem_map.mp listed
    exact congrArg (fun told => told.2.headers) same.symm
  have nonempty : made.fields ≠ [] := by
    intro none
    rw [none] at names
    exact filled (List.map_eq_nil_iff.mp names.symm)
  obtain ⟨bytes, found, collected, read, bodies, headers⟩ :=
    readForm_plain nonempty (boundary.symm ▸ bounded) (encoding ▸ by decide) plain
      (values.trans given) (boundary.symm ▸ absent)
  refine ⟨made, bytes, found, body, collected, boundary ▸ read, bodies, ?_⟩
  have lines := congrArg (List.map (fun spec => headerLines .pathSegment spec.1 spec.2)) names
  simp only [List.map_map, Function.comp_def] at lines
  rw [headers, encoding, lines]

theorem upload_read_back_two
    : ∃ built form bytes found,
      streamWithOptions aliceSite (ascii "GET") aliceUrl.asStr packedTwo.headers packedTwo.body
          packedTwo.options
        = .ok built
      ∧ built.body = some (.form form) ∧ collect form.intoStream = some bytes
      ∧ readForm aliceSite.boundary bytes = some found
      ∧ found.map Prod.snd = [ascii "one", ascii "two"] := by
  have prepares : twoFields.prepare .python = .ok packedTwo := rfl
  obtain ⟨built, sent⟩ := twoFields_sent
  have contents
      : [({ name := "a", data := some (ascii "one") } : FormField)
          , { name := "b", data := some (ascii "two"), filename := some "b.txt" }].map
            (FormField.content aliceSite)
        = [ascii "one", ascii "two"].map some :=
    rfl
  obtain ⟨form, bytes, found, body, collected, read, bodies, _⟩ :=
    upload_read_back rfl (by simp) prepares sent ⟨by decide, by decide⟩ contents (by decide)
  exact ⟨built, form, bytes, found, sent, body, collected, read, bodies⟩

end Tlsurl.Bindings
