import SqlMigration.Host
import SqlMigration.DataFile.CopyText
import SqlMigration.DataFile.Bcp

/-!
# Converting an export for loading

Rewrites a staged text export into the file the bulk loader reads. Each line of the export
(line feeds end lines; a last line without one counts too) is split, each field decoded and
written in the load format, and the fields joined by the delimiter and ended by a line feed.

The output is written to a temporary sibling, `<destination><suffix>.tmp`, and only then renamed
over the destination, so the destination holds either its old content or the whole conversion.
The temporary file is removed whatever happens. A value with no load form stops the conversion
naming its row and column; a failed system call and an export that is not UTF-8 stop it too.
The export is read as a buffered reader does, so lines before a chunk that does not decode are
still converted first (and can stop the conversion on their own).
-/

namespace SqlMigration.DataFile

open HostM

/-- The converted line of one row, or the column and reason that stop it. -/
def convertLine (line : String) (delimiter : String) : Except (Nat × Reserved) String := do
  let fields := splitLine line delimiter
  let encoded ← (fields.zipIdx.mapM fun (raw, i) =>
    (encodeField (decodeField raw) delimiter).mapError fun r => (i + 1, r))
  return delimiter.intercalate encoded ++ "\n"

/-- The lines of a decoded text: the complete ones, and what follows the last line feed. -/
def completeLines (cs : List Char) : List String × List Char :=
  let pieces := cs.splitOn '\n'
  (pieces.dropLast.map String.ofList, pieces.getLastD [])

/-- Converts the rows of decoded lines, numbering them from `first`. -/
def convertRows (source : String) (delimiter : String) (first : Nat) :
    List String → Except DataFileError (List String)
  | [] => .ok []
  | l :: ls => do
    let out ← (convertLine l delimiter).mapError fun (col, r) =>
      .unloadable source first col r delimiter
    let rest ← convertRows source delimiter (first + 1) ls
    return out :: rest

/-- The temporary sibling a conversion writes to. -/
def tempSibling (destination : Path) : Except Path.Problem Path :=
  destination.withSuffix (destination.suffix ++ ".tmp")

/-- Rewrites a staged export into a load file, answering the number of rows. -/
def convertCopyText (source destination : Path) (delimiter : String) : HostM Nat := do
  let tmp ← lift (tempSibling destination) .path
  let wrap (e : Fault) : Fault := match e with
    | .os o => .tool (.dataFile (.cannotConvert source destination o))
    | e => e
  finally' (mapFault (body tmp) wrap) (do if ← exists? tmp then unlink tmp)
where
  body (tmp : Path) : HostM Nat := do
    writeFile tmp []
    let bytes ← readFile source
    let stream := Text.Utf8.decodeChunks bytes
    let (lines, tail) := completeLines stream.text
    let name := source.name
    let converted ← lift (convertRows name delimiter 1 lines) (.tool ∘ .dataFile)
    let all ← match stream.error with
      | some e => throw (.tool (.dataFile (.notUtf8 source e)))
      | none =>
        if tail.isEmpty then pure converted
        else do
          let last ← lift (convertRows name delimiter (lines.length + 1) [String.ofList tail])
            (.tool ∘ .dataFile)
          pure (converted ++ last)
    writeFile tmp (Text.Utf8.encode (String.join all))
    rename tmp destination
    return all.length

end SqlMigration.DataFile
