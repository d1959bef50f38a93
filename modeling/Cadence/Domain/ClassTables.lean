/-!
# Character classes of domain names

Classes of the characters that names may hold, packed as rows of a gap, a length
and a class. A row may run over characters that no name holds.
-/

namespace Cadence.Domain

/-- Combining classes other than zero. -/
def combiningRows : List String :=
  ["300,15,230 ,,232 ,4,220 ,,232 ,,216 ,5,220 ,2,202 ,4,220 ,2,202 ,B,220 ,5,1 ,4,220 ,A,230",
    ",3,220 ,3,230 ,2,220 1,3,230 ,4,220 ,,230 ,,232 ,2,220 ,,230 ,,233 ,2,234 ,,233 ,2,234 ,,233",
    ",D,230 113,5,230 109,,220 ,4,230 ,,220 ,3,230 ,,222 ,,220 ,6,230 ,6,220 ,2,230 ,,220 ,2,230",
    ",,222 ,,228 ,,230 ,,10 ,,11 ,,12 ,,13 ,,14 ,,15 ,,16 ,,17 ,,18 ,2,19 ,,20 ,,21 ,,22 1,,23",
    "1,,24 ,,25 1,,230 ,,220 1,,18 48,8,230 ,,30 ,,31 ,,32 30,,27 ,,28 ,,29 ,,30 ,,31 ,,32 ,,33",
    ",,34 ,2,230 ,2,220 ,5,230 ,,220 ,2,230 ,,220 10,,35 65,7,230 2,4,230 ,,220 ,,230 2,2,230",
    "1,,220 ,2,230 ,,220 23,,36 1E,,230 ,,220 ,2,230 ,,220 ,2,230 ,3,220 ,,230 ,2,220 ,,230 ,,220",
    ",3,230 ,,220 ,,230 ,,220 ,,230 ,,220 ,,230 ,,220 ,2,230 A0,7,230 ,,220 ,,230 9,,220 18,4,230",
    "1,9,230 1,3,230 1,5,230 2B,3,220 3C,,230 ,3,220 ,4,230 2A,5,230 ,5,220 ,E,230 1,,220 ,2,230",
    ",,220 ,2,230 ,,220 ,3,230 ,3,220 ,,27 ,,28 ,,29 ,3,230 ,,220 ,2,230 ,2,220 ,5,230 3C,,7",
    "10,,9 3,,230 ,,220 ,2,230 67,,7 10,,9 30,,230 3D,,7 10,,9 6E,,7 10,,9 6E,,7 10,,9 7F,,9",
    "6E,,7 10,,9 7,,84 ,,91 65,,7 10,,9 6D,2,9 10,,9 7C,,9 6D,2,103 ,,9 D,4,107 6C,2,118 ,,9",
    "D,4,122 4C,2,220 1B,,220 1,,220 1,,216 37,,129 ,,130 1,,132 5,4,130 2,,130 1,2,230 ,,9",
    "1,2,230 3E,,220 70,,7 1,2,9 52,,220 2CF,3,230 3B4,2,9 1E,,9 9D,,9 A,,230 CB,,228 8F,,222",
    ",,230 ,,220 DB,,230 ,,220 47,,9 14,8,230 2,,220 30,5,230 ,6,220 ,2,230 ,,220 1,2,220 ,2,230",
    ",2,220 ,5,230 ,,220 ,4,230 65,,7 F,,9 26,,230 ,,220 ,7,230 36,2,9 3A,,7 B,2,9 43,,7 98,3,230",
    "1,,1 ,5,220 ,2,230 ,4,220 ,,230 1,7,1 4,,220 6,,230 3,2,230 C6,2,230 ,,220 ,7,230 ,,220",
    ",2,230 ,,234 ,,214 ,,220 ,,202 ,25,230 ,,232 ,2,228 ,,220 ,,218 ,,230 ,,233 ,,220 ,,230",
    ",,220 2D0,2,230 ,2,1 ,4,230 ,3,1 ,2,230 4,,230 3,2,1 ,,230 ,,220 ,,230 ,2,1 ,4,220 ,,230",
    "BFE,3,230 8D,,9 60,20,230 22A,,218 ,,228 ,,232 ,,222 ,2,224 69,2,8 75D4,,230 4,A,230",
    "20,2,230 50,2,230 114,,9 25,,9 97,,9 1B,12,230 39,3,220 25,,9 5F,,7 C,,9 EF,,230 1,2,230",
    ",,220 2,2,230 5,2,230 1,,230 34,,9 F6,,9 4F30,,26 301,7,230 ,7,220 ,2,230 3CD,,220 E2,,220",
    "95,5,230 692,,220 1,,230 28,,230 ,,1 ,,220 4,,9 A5,,230 ,,220 23D,4,230 183,2,230 50,3,220",
    "46,2,220 ,3,230 ,,220 ,,230 ,4,220 31,,230 ,,220 ,,230 ,,220 C0,,9 29,,9 E,,9 39,,9 ,,7",
    "45,3,230 30,2,9 3E,,7 4C,,9 9,,7 6A,,9 ,,7 B2,,7 ,,9 50,2,7 10,,9 18,F,230 CD,,9 3,,7",
    "17,,230 63,,9 ,,7 FB,,9 ,,7 7E,,9 76,,9 ,,7 73,,9 10D,,9 ,,7 102,2,9 4,,7 9C,,9 53,,9 12,,9",
    "51,,9 1A5,,9 102,,7 1,2,9 51,,9 1A9,2,9 4BAD,5,1 3B,7,230 4B9,2,6 4CAC,,1 14C6,2,216 ,3,1",
    "3,,226 ,5,216 8,8,220 2,5,230 ,2,220 1E,4,230 94,3,230 DBB,90,230 A0,7,230 177,,230 3D,4,230",
    "1FC,2,232 ,,220 ,,230 3E0,7,220 6D,6,230 ,,7"]

/-- The marks, which combine with the character before them. -/
def markRows : List String :=
  ["300,70,m 113,7,m 107,2D,m 1,,m 1,2,m 1,2,m 1,,m 48,B,m 30,15,m 10,,m 65,7,m 2,6,m 2,2,m",
    "1,4,m 23,,m 1E,1B,m 5B,B,m 3A,9,m 9,,m 18,4,m 1,9,m 1,3,m 1,5,m 2B,3,m 3C,8,m 2A,3A,m 36,3,m",
    "1,12,m 1,7,m A,2,m 1D,3,m 38,,m 1,10,m 9,,m A,2,m 1A,6,m 38,16,m 1E,2,m 3,,m B,3,m 38,,m",
    "1,10,m 14,2,m 16,A,m 38,,m 1,1A,m A,2,m 1E,,m 3B,10,m 9,,m 28,5,m 37,,m 1,19,m B,2,m 1D,3,m",
    "38,,m 1,19,m B,2,m F,11,m 37,2,m 1,10,m 9,,m A,2,m 1D,3,m 46,16,m 12,2,m 3D,,m 2,7,m C,8,m",
    "62,,m 2,9,m B,7,m 49,2,m 1B,,m 1,,m 1,,m 4,2,m 31,14,m 1,2,m 5,30,m 9,,m 64,14,m 17,4,m",
    "4,3,m 1,3,m 2,7,m 3,4,m D,C,m 1,,m A,4,m 2BF,3,m 3B2,4,m 1C,3,m 1D,2,m 1E,2,m 42,1E,m 9,,m",
    "A7,2,m 22,,m 76,1C,m DB,5,m 39,2B,m 30,1F,m 31,5,m 2F,11,m 26,9,m C,3,m 1E,D,m 38,E,m",
    "30,14,m 98,3,m 1,15,m 4,,m 6,,m 2,3,m C6,40,m 2D0,21,m BFE,3,m 8D,,m 60,20,m 22A,6,m 69,2,m",
    "75D4,4,m 1,A,m 20,2,m 50,2,m 110,,m 3,,m 4,,m 17,5,m 4,,m 53,2,m 32,12,m 1A,12,m D,,m 26,8,m",
    "19,D,m 2C,4,m 2F,E,m 24,,m 43,E,m C,,m 8,2,m 2D,3,m 32,,m 1,3,m 2,2,m 5,2,m 1,,m 29,5,m",
    "5,2,m EC,8,m 1,2,m 4F30,,m 301,10,m 3CD,,m E2,,m 95,5,m 686,F,m 28,8,m A5,2,m 23D,4,m",
    "183,2,m 50,3,m 46,B,m 31,4,m 7A,3,m 35,F,m 29,,m 2,2,m A,4,m 2D,B,m 7,,m 3D,3,m 24,E,m",
    "10,2,m 2C,,m C,3,m 30,E,m 8,4,m 1,2,m 5C,C,m 6,,m 2,,m 9D,C,m 15,4,m 37,2,m 1,10,m 9,,m",
    "A,13,m C0,12,m 17,,m 51,14,m EB,12,m 1B,2,m 52,11,m 6A,D,m 65,F,m 100,F,m F5,F,m 1,,m 1,2,m",
    "8D,10,m 3,,m 1C,A,m 28,7,m 1,4,m 8,,m 9,B,m 2E,10,m 195,11,m 52,25,m 7A,15,m 1,,m 42,E,m",
    "15B,4,m 9,2,m 1,,m 30,F,m 14FD,,m 6,F,m 369A,5,m 3B,7,m 418,,m 1,42,m 51,E,m 4CAB,2,m",
    "1261,47,m 21E,5,m 3,16,m 2,7,m 1E,4,m 94,3,m 7BB,37,m 4,32,m 8,,m E,,m 16,15,m 550,90,m",
    "A0,7,m 177,,m 3D,4,m 1FC,4,m 3E0,7,m 6D,7,m"]

/-- Directions other than left to right: `r` right to left, `a` and `e` numbers of
the two kinds, `n` neutral, `m` marks, and `x` what no name with a direction holds. -/
def directionRows : List String :=
  [",9,n ,5,x ,E,n ,5,x ,F,n ,A,e ,7,n 1A,6,n 1A,5D,n 1F,,n 1C1,2,n 7,E,n 2,1C,n 1,11,n ,70,m",
    "5,,n 80,,n 8C,7,m 100,6,n 1,2D,m ,,r ,,m ,,r ,2,m ,,r ,2,m ,,r ,,m 8,25,r 11,2,n ,,r ,2,n",
    ",,r ,,n ,,r ,2,n ,B,m ,30,r ,15,m ,A,a ,,n ,2,a ,3,r ,,m ,65,r ,7,m 1,,n ,6,m ,2,r ,2,m ,,n",
    ",4,m ,2,r ,A,e ,17,r ,,m ,1E,r ,1B,m 2,59,r ,B,m ,3A,r ,9,m ,2,r ,4,n ,,r 2,,m ,18,r ,4,m",
    ",,r ,9,m ,,r ,3,m ,,r ,5,m 2,29,r ,3,m 2,3A,r ,8,m ,2A,r ,39,m 37,,m 1,,m 4,8,m 4,,m 3,7,m",
    "A,2,m 1D,,m 3A,,m 4,4,m 8,,m 14,2,m E,2,n 7,,n 2,5,m 39,,m 4,11,m 1E,2,m 3,,m B,2,m 39,,m",
    "4,8,m 4,,m 14,2,m D,,n 8,8,m 3A,,m 2,,m 1,4,m 8,A,m B,2,m 1E,,m 3D,,m C,,m 25,8,n 5,,m 3,,m",
    "37,,m 1,3,m 5,11,m B,2,m 14,7,n 2,,m 3A,,m F,2,m 14,2,m 1C,2,m 39,2,m 4,4,m 8,,m 14,2,m",
    "1D,,m 48,,m 7,5,m 5A,,m 2,7,m 4,,n 7,8,m 62,,m 2,9,m B,7,m 49,2,m 1B,,m 1,,m 1,,m ,4,n",
    "33,E,m 1,5,m 1,2,m 5,30,m 9,,m 66,4,m 1,6,m 1,2,m 2,2,m 19,2,m 4,3,m 10,4,m D,,m 2,2,m 6,,m",
    "F,,m 2BF,3,m 30,A,n 66,,n 29A,2,n 75,3,m 1D,2,m 1E,2,m 1E,2,m 43,7,m 8,,m 2,B,m 7,,n 1,,m",
    "12,1B,n 7A,2,m 22,,m 76,3,m 4,2,m 9,,m 6,3,m 4,6,n 98,22,n 17,2,m 2,,m 3A,,m 1,9,m 1,,m",
    "2,8,m 6,D,m 30,1F,m 31,4,m 30,,m 1,5,m 1,,m 5,,m 28,9,m C,2,m 20,4,m 2,2,m 1,3,m 38,,m 1,2,m",
    "3,,m 1,3,m 3A,8,m 2,2,m 98,3,m 1,D,m 1,7,m 4,,m 6,,m 3,2,m C6,40,m 20C,B6,n E,21,m 13,4A,n",
    "3C,1AC,n 45,1A,n 1,91,n 19,26C,n 1,153,n 100,296,n 1,69,n E5,6,n 4,3,m 7,7,n 7F,,m 60,20,m",
    ",205,n 3,19,n 9,4,m 2,,n 6,,n 5,3,n 59,2,m 5,,n 5A,,n C4,24,n 1BDC,40,n 5690,37,n 146,3,n",
    "5F,4,m ,,n ,A,m ,2,n 1E,2,m 50,2,m E,22,n 66,,n 79,,m 3,,m 4,,m 19,2,m 1,4,n ,,m B,2,n",
    "3A,4,n 4C,2,m 1A,12,m D,,m 26,8,m 19,B,m 2E,3,m 30,,m 2,4,m 2,2,m 27,,m 43,6,m 2,2,m 2,2,m",
    "C,,m 8,,m 2F,,m 33,,m 1,3,m 2,2,m 5,2,m 1,,m 2A,2,m 8,,m 73,2,n 79,,m 2,,m 4,,m 4F30,,m",
    "93,21,r 16B,12,n 40,3F,r ,31,n 20,10,m 15,2,n 2C,,r 28D,,n 3E,4D,n 3,11,n 5C,,m E2,,m ,1B,e",
    "7A,5,m 485,11C,r 3,,n ,E1,r ,F,m ,26,r 2,8,m ,A5,r ,2,m 4,4B,r 3,7,n ,1E4,r ,4,m 8,A,a",
    "6,50,r D0,1F,a 1,2A,r 1,2,m ,50,r ,3,m ,46,r ,B,m ,31,r ,4,m ,71,r A,,m 36,F,m B,14,n A,,m",
    "2,2,m A,3,m 31,4,m 2,2,m 7,,m 3D,3,m 24,5,m 1,8,m 3E,,m C,2,m 34,9,m A,4,m 2,,m 5F,3,m 2,,m",
    "1,2,m 6,,m 2,,m 9D,,m 3,8,m 15,2,m 39,2,m 3,,m 25,F,m C3,8,m 2,3,m 1,,m 17,,m 54,6,m 1,,m",
    "4,2,m 1,2,m EE,4,m 6,2,m 1,2,m 1B,2,m 55,8,m 2,,m 1,2,m 1F,D,n 3E,,m 1,,m 2,6,m 1,,m 65,3,m",
    "2,4,m 1,5,m 103,9,m 1,2,m 100,2,m 1,,m 4,,m 90,8,m 4,,m 20,6,m 2,2,m 28,6,m 2,4,m 8,,m 9,6,m",
    "2,3,m 2E,D,m 1,2,m 196,E,m 54,16,m 2,7,m 1,2,m 1,2,m 7A,15,m 1,,m 48,2,m 3,,m 1,,m 15B,2,m",
    "B,2,m 34,5,m 5,,m 1,,m 92,1D,n 144E,,m 6,F,m 369A,5,m 3B,7,m 418,,m 3F,4,m 4F,,n 1,,m",
    "4CB8,2,m 1261,47,m 220,3,m 11,8,m 2,7,m 1E,4,m 3B,59,n ,3,m ,,n BA,57,n 6A9,37,m 4,32,m 8,,m",
    "E,,m 16,15,m 550,90,m A0,7,m 177,,m 3D,4,m F,,n 1EC,4,m 310,D0,r ,7,m 4B,22,r ,7,m ,3F3,r",
    "1B2,240,n 3D,3,n 3D,,n B2,478,n 4,9B,n 4,137,n 4E,154,n C,29,n 7,2E,n 1,7,n 8,E,n 4,9,n",
    "7,DB,n"]

/-- Joining types of cursive letters: left, right, dual and transparent. -/
def joiningRows : List String :=
  ["300,70,T 113,7,T 107,2D,T 1,,T 1,2,T 1,2,T 1,,T 48,B,T 5,,D 1,4,R ,,D ,,R ,,D ,,R ,5,D ,4,R",
    ",D,D 1,7,D ,,R ,2,D ,15,T E,2,D ,,T ,3,R 5,F,D ,12,R ,26,D ,,R ,2,D ,9,R ,,D ,,R ,,D ,,R",
    ",2,D ,2,R 1,,R ,7,T 2,6,T 2,2,T 1,4,T ,2,R A,3,D 2,,D 10,,R ,,T ,3,D ,5,R ,4,D ,,R ,9,D ,,R",
    ",,D ,,R ,,D ,,R ,2,D ,,R ,1B,T 2,,R ,B,D ,3,R ,F,D ,2,R ,4,D ,,R ,,D ,2,R ,3,D ,2,R ,6,D",
    "26,B,T 19,21,D ,9,T 9,,T 18,4,T 1,9,T 1,3,T 1,5,T 12,,R ,5,D ,2,R ,,D ,,R ,A,D ,,R ,,D ,3,R",
    ",3,T 4,,D 1,4,D 1,,R ,,D ,1A,R 3,,D 2,5,D ,,R 9,8,T ,A,D ,3,R 1,,R ,2,D ,2,R ,6,D ,,R ,F,D",
    "1,39,T 37,,T 1,,T 4,8,T 4,,T 3,7,T A,2,T 1D,,T 3A,,T 4,4,T 8,,T 14,2,T 1A,5,T 39,,T 4,11,T",
    "1E,2,T 3,,T B,2,T 39,,T 4,8,T 4,,T 14,2,T 16,8,T 3A,,T 2,,T 1,4,T 8,A,T B,2,T 1E,,T 3D,,T",
    "C,,T 32,,T 3,,T 37,,T 1,3,T 5,11,T B,2,T 1D,,T 3A,,T 2,,T 6,,T 5,2,T 14,2,T 1C,2,T 39,2,T",
    "4,4,T 8,,T 14,2,T 1D,,T 48,,T 7,5,T 5A,,T 2,7,T C,8,T 62,,T 2,9,T B,7,T 49,2,T 1B,,T 1,,T",
    "1,,T 37,E,T 1,5,T 1,2,T 5,30,T 9,,T 66,4,T 1,6,T 1,2,T 2,2,T 19,2,T 4,3,T 10,4,T D,,T 2,2,T",
    "6,,T F,,T 2BF,3,T 3B2,3,T 1D,2,T 1E,2,T 1E,2,T 43,7,T 8,,T 2,B,T 9,,T 29,,D 18,59,D C,2,T",
    ",22,D ,,T ,,D 75,3,T 4,2,T 9,,T 6,3,T DB,2,T 2,,T 3A,,T 1,9,T 1,,T 2,8,T 6,D,T 30,1F,T",
    "31,4,T 30,,T 1,5,T 1,,T 5,,T 28,9,T C,2,T 20,4,T 2,2,T 1,3,T 38,,T 1,2,T 3,,T 1,3,T 3A,8,T",
    "2,2,T 98,3,T 1,D,T 1,7,T 4,,T 6,,T 3,2,T C6,40,T 2D0,21,T BFE,3,T 8D,,T 60,20,T 22A,4,T",
    "6B,2,T 75D4,4,T 1,A,T 20,2,T 50,2,T 110,,T 3,,T 4,,T 19,2,T 5,,T 13,32,D ,,L 51,2,T 1A,12,T",
    "D,,T 26,8,T 19,B,T 2E,3,T 30,,T 2,4,T 2,2,T 27,,T 43,6,T 2,2,T 2,2,T C,,T 8,,T 2F,,T 33,,T",
    "1,3,T 2,2,T 5,2,T 1,,T 2A,2,T 8,,T EE,,T 2,,T 4,,T 4F30,,T 301,10,T 3CD,,T E2,,T 95,5,T",
    "686,F,T 28,8,T 80,5,D ,,R 1,,R 1,2,R 2,,L ,5,R ,4,D ,,L ,5,D ,,R ,3,D ,,R 2,,R ,2,T 4,4,D",
    ",,R 90,,D ,,R ,,D ,3,R ,3,D ,,R ,2,D ,,R ,,D ,2,R ,,D ,,R 17,4,R ,2,D 151,,L ,21,D ,,R ,,D",
    ",4,T 183,2,T 50,3,T 30,3,D ,,R ,11,D 1,B,T ,3,D ,,R 1B,4,D ,2,R ,C,D ,4,T 2A,,D 1,2,D ,3,R",
    "1,,D ,2,R ,2,D ,,R ,2,D 1,,D ,2,R ,,D 4,,R ,,D ,,L 35,,T 36,F,T 29,,T 2,2,T A,3,T 31,4,T",
    "2,2,T 7,,T 3D,3,T 24,5,T 1,8,T 3E,,T C,2,T 34,9,T A,4,T 2,,T 5F,3,T 2,,T 1,2,T 6,,T 2,,T",
    "9D,,T 3,8,T 15,2,T 39,2,T 3,,T 25,F,T C3,8,T 2,3,T 1,,T 17,,T 54,6,T 1,,T 4,2,T 1,2,T EE,4,T",
    "6,2,T 1,2,T 1B,2,T 55,8,T 2,,T 1,2,T 6A,,T 1,,T 2,6,T 1,,T 65,3,T 2,4,T 1,5,T 103,9,T 1,2,T",
    "100,2,T 1,,T 4,,T 90,8,T 4,,T 20,A,T 28,6,T 2,4,T 8,,T 9,6,T 2,3,T 2E,D,T 1,2,T 196,E,T 1,,T",
    "52,16,T 2,7,T 1,2,T 1,2,T 7A,15,T 1,,T 48,2,T 3,,T 1,,T 15B,2,T B,2,T 34,5,T 5,,T 1,,T",
    "14FD,,T 6,F,T 369A,5,T 3B,7,T 418,,T 3F,4,T 51,,T 4CB8,2,T 1261,47,T 220,3,T 11,8,T 2,7,T",
    "1E,4,T 94,3,T 7BB,37,T 4,32,T 8,,T E,,T 16,15,T 550,90,T A0,7,T 177,,T 3D,4,T 1FC,4,T",
    "3E0,7,T 4B,22,D ,8,T"]

end Cadence.Domain
