import CodeAtlas.Records
import CodeAtlas.Json.Writer

/-! # Records as documents

The JSON form of every record, as it is stored and printed. -/
namespace CodeAtlas

def FileChange.toJson (c : FileChange) : Json :=
  .object [("filename", .string c.filename), ("additions", .nat c.additions),
    ("deletions", .nat c.deletions), ("kind", .string c.kind.name)]

def Commit.fields (c : Commit) : List (String × Json) :=
  [("hash", .string c.hash), ("short_hash", .string c.shortHash),
    ("author_name", .string c.authorName), ("author_email", .string c.authorEmail),
    ("timestamp", .int c.timestamp), ("message", .string c.message),
    ("files_changed", .array (c.filesChanged.map FileChange.toJson)),
    ("total_additions", .nat c.totalAdditions), ("total_deletions", .nat c.totalDeletions),
    ("files_changed_count", .nat c.filesChangedCount),
    ("parent_hashes", .strings c.parentHashes)]

def SourceFile.toJson (f : SourceFile) : Json :=
  .object [("path", .string f.path), ("filename", .string f.filename),
    ("extension", .string f.extension), ("language", .string f.language.recordName),
    ("content", .string f.content), ("size", .nat f.size), ("line_count", .nat f.lineCount)]

def Parameter.toJson (p : Parameter) : Json :=
  .object [("name", .string p.name), ("type_name", .string p.typeName),
    ("default_value", .optional .string p.defaultValue)]

def CodeSymbol.fields (s : CodeSymbol) : List (String × Json) :=
  [("name", .string s.name), ("kind", .string s.kind.name), ("start_line", .nat s.startLine),
    ("end_line", .nat s.endLine), ("parameters", .array (s.parameters.map Parameter.toJson)),
    ("return_type", .string s.returnType), ("is_exported", .bool s.isExported),
    ("is_async", .bool s.isAsync), ("complexity", .nat s.complexity), ("calls", .strings s.calls),
    ("code", .string s.code)]

def Outline.toJson (o : Outline) : Json :=
  .object [("symbols", .array (o.symbols.map fun s => .object s.fields)),
    ("imports", .strings o.imports), ("exports", .strings o.exports)]

def SubjectStats.toJson (s : SubjectStats) : Json :=
  .object [("total_commits", .nat s.totalCommits), ("total_files", .nat s.totalFiles),
    ("total_functions", .nat s.totalFunctions), ("total_dependencies", .nat s.totalDependencies),
    ("languages", .strings s.languages)]

def Edge.fields (e : Edge) : List (String × Json) :=
  [("source_kind", .string e.sourceKind.name), ("source_id", .int e.sourceId),
    ("target_kind", .string e.targetKind.name), ("target_id", .optional .int e.targetId),
    ("target_name", .string e.targetName), ("kind", .string e.kind.name),
    ("is_external", .bool e.isExternal)]

def ContextChunk.toJson (c : ContextChunk) : Json :=
  .object [("content", .string c.content), ("source", .string c.source), ("score", .single c.score)]

def FileSource.toJson (s : FileSource) : Json :=
  .object [("path", .string s.path), ("relevance", .single s.relevance)]

def FunctionSource.toJson (s : FunctionSource) : Json :=
  .object [("name", .string s.name), ("file_path", .string s.filePath),
    ("start_line", .nat s.startLine), ("end_line", .nat s.endLine),
    ("relevance", .single s.relevance)]

def CommitSource.toJson (s : CommitSource) : Json :=
  .object [("hash", .string s.hash), ("message", .string s.message),
    ("relevance", .single s.relevance)]

def GraphNode.toJson (n : GraphNode) : Json :=
  .object [("id", .int n.id), ("kind", .string n.kind.name), ("name", .string n.name),
    ("connections", .nat n.connections)]

def AnswerSources.toJson (s : AnswerSources) : Json :=
  .object [("files", .array (s.files.map FileSource.toJson)),
    ("functions", .array (s.functions.map FunctionSource.toJson)),
    ("commits", .array (s.commits.map CommitSource.toJson)),
    ("graph_nodes", .array (s.graphNodes.map GraphNode.toJson))]

end CodeAtlas
