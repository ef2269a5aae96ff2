import CrdToolset.Toolset.Lines

/-!
# The file of the client

A typed client with the methods that the selected tools need. Each method stands for one operation,
and a resource with a namespace has the namespace as a parameter.
-/

namespace CrdToolset.Toolset

/-- The lines of one method of the client, after an empty line. -/
def clientMethod (t : Toolset) (method : Operation) : List String :=
  let kind := t.resource.kind
  let listKind := t.resource.listKind
  let receiver := "func (c *" ++ t.clientType ++ ") "
  let parameter := t.ifNamespaced ", namespace string"
  let place := t.ifNamespaced ", Namespace: c.namespaceOr(namespace)"
  let namespaced := t.resource.isNamespaced
  match method with
  | .create => [
      "",
      "// Create creates a new " ++ kind ++ " resource",
      receiver ++ "Create(ctx context.Context, obj *" ++ kind ++ ") error \x7b"] ++
    linesIf namespaced ["\tobj.Namespace = c.namespaceOr(obj.Namespace)"] ++ [
      "\treturn c.client.Create(ctx, obj)",
      "\x7d"]
  | .get => [
      "",
      "// Get fetches a " ++ kind ++ " by name",
      receiver ++ "Get(ctx context.Context, name string" ++ parameter ++ ") (*" ++ kind ++
        ", error) \x7b",
      "\tobj := &" ++ kind ++ "\x7b\x7d",
      "\tkey := client.ObjectKey\x7bName: name" ++ place ++ "\x7d",
      "\tif err := c.client.Get(ctx, key, obj); err != nil \x7b",
      "\t\treturn nil, err",
      "\t\x7d",
      "\treturn obj, nil",
      "\x7d"]
  | .list => [
      "",
      "// List lists " ++ t.resource.plural ++ ", optionally filtered by a label selector",
      receiver ++ "List(ctx context.Context" ++ parameter ++ ", labelSelector string) (*" ++ listKind ++
        ", error) \x7b",
      "\tlist := &" ++ listKind ++ "\x7b\x7d",
      "\tvar opts []client.ListOption"] ++
    linesIf namespaced [
      "\tif ns := c.namespaceOr(namespace); ns != \"\" \x7b",
      "\t\topts = append(opts, client.InNamespace(ns))",
      "\t\x7d"] ++ [
      "\tif labelSelector != \"\" \x7b",
      "\t\tselector, err := labels.Parse(labelSelector)",
      "\t\tif err != nil \x7b",
      "\t\t\treturn nil, fmt.Errorf(\"invalid label selector %q: %w\", labelSelector, err)",
      "\t\t\x7d",
      "\t\topts = append(opts, client.MatchingLabelsSelector\x7bSelector: selector\x7d)",
      "\t\x7d",
      "\tif err := c.client.List(ctx, list, opts...); err != nil \x7b",
      "\t\treturn nil, err",
      "\t\x7d",
      "\treturn list, nil",
      "\x7d"]
  | .update => [
      "",
      "// Update writes back a modified " ++ kind,
      receiver ++ "Update(ctx context.Context, obj *" ++ kind ++ ") error \x7b",
      "\treturn c.client.Update(ctx, obj)",
      "\x7d"]
  | .delete => [
      "",
      "// Delete removes a " ++ kind ++ " by name; a missing object is not an error",
      receiver ++ "Delete(ctx context.Context, name string" ++ parameter ++ ") error \x7b",
      "\tobj := &" ++ kind ++ "\x7bObjectMeta: metav1.ObjectMeta\x7bName: name" ++ place ++ "\x7d\x7d",
      "\treturn client.IgnoreNotFound(c.client.Delete(ctx, obj))",
      "\x7d"]

/-- The lines of the file of the client: its type, its constructor and one method for each operation
that is needed. -/
def clientFile (t : Toolset) : List String :=
  let client := t.clientType
  let namespaced := t.resource.isNamespaced
  t.header t.imports.client ++ [
    "",
    "// " ++ client ++ " provides operations for " ++ t.resource.kind ++ " custom resources",
    "type " ++ client ++ " struct \x7b",
    "\tclient    client.Client"] ++
  linesIf namespaced ["\tnamespace string"] ++ [
    "\x7d",
    "",
    "// New" ++ client ++ " creates a new client for " ++ t.resource.kind ++ " resources",
    "func New" ++ client ++ "(c client.Client" ++ t.ifNamespaced ", namespace string" ++ ") *" ++ client ++
      " \x7b",
    "\treturn &" ++ client ++ "\x7b",
    "\t\tclient:    c,"] ++
  linesIf namespaced ["\t\tnamespace: namespace,"] ++ [
    "\t\x7d",
    "\x7d"] ++
  linesIf namespaced [
    "",
    "// namespaceOr returns ns, or the default namespace when ns is empty",
    "func (c *" ++ client ++ ") namespaceOr(ns string) string \x7b",
    "\tif ns != \"\" \x7b",
    "\t\treturn ns",
    "\t\x7d",
    "\treturn c.namespace",
    "\x7d"] ++
  t.clientMethods.flatMap (clientMethod t)

end CrdToolset.Toolset
