import Unbundled.Script.Tree

namespace Unbundled.Script

def EntityName.span : EntityName → Span
  | .ident id => id.span
  | .qualified s .. => s

def ExportName.span : ExportName → Span
  | .ident id => id.span
  | .str lit => lit.span

def ExportName.text : ExportName → String
  | .ident id => id.name
  | .str lit => lit.value

def ImportSpecifier.local : ImportSpecifier → Ident
  | .named _ id .. | .default id | .star _ id => id

def JsxName.span : JsxName → Span
  | .ident id => id.span
  | .namespaced s .. | .member s .. => s

def Key.span : Key → Span
  | .word w => w.span
  | .str lit => lit.span
  | .num s .. | .bigint s _ | .computed s _ => s
  | .priv w => w.span

mutual

def Expr.span : Expr → Span
  | .this s | .super s | .importCallee s | .num s .. | .bigint s _ | .bool s _ | .null s
  | .regex s .. | .template s .. | .tagged s .. | .array s _ | .object s _ | .arrow s ..
  | .unary s .. | .update s .. | .binary s .. | .assign s .. | .member s .. | .cond s ..
  | .call s .. | .new s .. | .seq s _ | .yield s .. | .await s _ | .newTarget s | .importMeta s
  | .paren s _ | .chain s .. | .jsx s .. | .jsxText s .. | .jsxBraced s _ | .asType s ..
  | .asConst s _ | .satisfies s .. | .typeAssertion s .. | .constAssertion s _ | .nonNull s _
  | .instantiation s .. => s
  | .ident id => id.span
  | .str lit => lit.span
  | .hole => .absent
  | .spread dots arg => dots.through arg.span
  | .func _ fn => fn.span
  | .cls _ c => c.span
  | .privateName w => w.span

end

def Pat.span : Pat → Span
  | .ident id _ => id.span
  | .array s .. | .object s .. | .rest s .. | .default s .. | .shorthand s .. => s
  | .hole => .absent
  | .keyed key value => key.span.through value.span
  | .expr e => e.span

def Property.span : Property → Span
  | .spread dots arg => dots.through arg.span
  | .shorthand id => id.span
  | .keyed key value => key.span.through value.span
  | .shorthandInit id value => id.span.through value.span
  | .method _ _ fn => fn.span
  | .attr s .. => s

def Member.span : Member → Span
  | .ctor s .. | .method s .. | .field s .. | .staticBlock s _ | .index s .. | .empty s
  | .enumCase s .. | .callSig s .. | .constructSig s .. | .propertySig s .. | .getterSig s ..
  | .setterSig s .. | .methodSig s .. => s

def Ty.span : Ty → Span
  | .keyword s _ | .this s | .ref s .. | .typeof s .. | .typeofImport s .. | .func s ..
  | .ctor s .. | .object s _ | .array s _ | .tuple s _ | .labeled s .. | .optional s _
  | .rest s _ | .union s _ | .inter s _ | .cond s .. | .infer s _ | .paren s _
  | .operator s .. | .indexed s .. | .mapped s .. | .template s .. | .predicate s ..
  | .import s .. | .heritage s .. | .param s .. => s
  | .lit e => e.span
  | .name id => id.span

def Stmt.span : Stmt → Span
  | .block b => b.span
  | .empty s | .debugger s | .with s .. | .ret s _ | .labeled s .. | .break s _ | .continue s _
  | .if s .. | .switch s .. | .case s .. | .throw s _ | .try s .. | .while s .. | .doWhile s ..
  | .for s .. | .forIn s .. | .forOf s .. | .expr s _ | .var s .. | .interface s ..
  | .typeAlias s .. | .enum s .. | .namespace s .. | .globalAugment s .. | .ambientModule s ..
  | .moduleBlock s _ | .import s .. | .exportDecl s _ | .exportNamed s ..
  | .exportDefaultDecl s _ | .exportDefaultInterface s _ | .exportDefaultExpr s _
  | .exportAll s .. | .importEquals s .. | .importRequire s .. | .exportAssign s _
  | .exportAsNamespace s _ => s
  | .target p => p.span
  | .func _ _ fn => fn.span
  | .cls _ _ c => c.span

end Unbundled.Script
