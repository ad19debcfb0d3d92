/-! # Row ids -/
namespace Chronicle

/-- What a stored row is referred to by. -/
abbrev RowId := Int64

end Chronicle
